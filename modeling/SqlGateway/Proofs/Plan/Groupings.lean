import SqlGateway.Proofs.Pairing
import SqlGateway.Proofs.Plan.Pipelines
import SqlGateway.Proofs.Store.Projection
import SqlGateway.Proofs.Store.Sorting
import SqlGateway.Proofs.Store.Splitting

/-! The stages in the middle of a grouping: they group, put the aggregates of each group into its
first document, and project what comes of that. Part by part they give one row. -/

namespace SqlGateway

/-! ### Aggregates -/

theorem toList_aggregatedName (f : Aggregation) (name : String) :
    (aggregatedName f name).toList = f.name.toList ++ '_' :: name.toList := by
  rw [aggregatedName, String.toList_append, String.toList_append, List.append_assoc]
  rfl

theorem head?_aggregatedName (f : Aggregation) (name : String) :
    (aggregatedName f name).toList.head? ∈ ['A', 'C', 'M', 'S'].map some := by
  rw [toList_aggregatedName]
  cases f <;> simp [Aggregation.name]

/-- Different aggregates have different fields. -/
theorem aggregatedName_injective {f g : Aggregation} {a b : String}
    (h : aggregatedName f a = aggregatedName g b) : f = g ∧ a = b := by
  have hchars := congrArg String.toList h
  rw [toList_aggregatedName, toList_aggregatedName] at hchars
  cases f <;> cases g <;> simp [Aggregation.name, String.toList_inj] at hchars ⊢ <;> exact hchars

theorem aggregatedName_ne {name : String}
    (hhead : name.toList.head? ∉ ['A', 'C', 'M', 'S'].map some) (f : Aggregation) (a : String) :
    aggregatedName f a ≠ name :=
  fun heq => hhead (heq ▸ head?_aggregatedName f a)

theorem undollared_aggregatedName (f : Aggregation) (name : String) :
    (aggregatedName f name).toList.head? ≠ some '$' := by
  intro hdollar
  have hhead := head?_aggregatedName f name
  rw [hdollar] at hhead
  revert hhead
  decide

theorem plainName_aggregatedName {name : String} (h : '.' ∉ name.toList) (f : Aggregation) :
    PlainName (aggregatedName f name) where
  dotless := by
    rw [toList_aggregatedName, List.mem_append, List.mem_cons]
    have hname : '.' ∉ f.name.toList := by cases f <;> decide
    simp [hname, h]
  undollared := undollared_aggregatedName f name
  ordinary := aggregatedName_ne (by decide) f name

/-! ### Stages -/

namespace Plan

/-- The argument of the first stage: a key, the aggregates, and the first document of each group. -/
def groupSpec (key : Value) (accumulators : List (String × Value)) : Document :=
  (Fields.setAll [("_id", key)] accumulators).set recordField
    (.document [("$first", .string "$$ROOT")])

/-- What reads the aggregates of a group. -/
def aggregates (accumulators : List (String × Value)) : Document :=
  Fields.ofList (accumulators.map fun (f, _) => (f, .string ("$" ++ f)))

/-- What puts the aggregates of a group into its first document. -/
def overlay (accumulators : List (String × Value)) : Value :=
  .document [("$mergeObjects",
    .array [.string ("$" ++ recordField), .document (aggregates accumulators)])]

/-- The stages from the documents of a collection to the rows of its groups. -/
def rowStages (key : Value) (accumulators : List (String × Value)) (projection : Document) :
    List Document :=
  [[("$group", .document (groupSpec key accumulators))],
    [("$replaceRoot", .document [("newRoot", overlay accumulators)])],
    [("$project", .document projection)]]

/-- These stages of a SELECT. -/
def groupStages (names : Naming) (q : Select) : Except GatewayError (List Document) := do
  return rowStages (← groupKey names q.groupBy) (← accumulators names q.columns)
    (← projectionOf names q.columns)

theorem groupStages_eq_ok {names : Naming} {q : Select} {stages : List Document} :
    groupStages names q = .ok stages ↔
      ∃ key accs projection, groupKey names q.groupBy = .ok key ∧
        accumulators names q.columns = .ok accs ∧ projectionOf names q.columns = .ok projection ∧
        rowStages key accs projection = stages := by
  constructor
  · intro h
    obtain ⟨key, hkey, h⟩ := Except.bind_eq_ok.mp h
    obtain ⟨accs, haccs, h⟩ := Except.bind_eq_ok.mp h
    obtain ⟨projection, hprojection, h⟩ := Except.bind_eq_ok.mp h
    exact ⟨key, accs, projection, hkey, haccs, hprojection, Except.ok.inj h⟩
  · rintro ⟨key, accs, projection, hkey, haccs, hprojection, rfl⟩
    rw [groupStages, hkey, Except.ok_bind, haccs, Except.ok_bind, hprojection]
    rfl

/-- A grouping without a join sorts by its first MAX or MIN column, makes its rows, and filters,
orders and cuts these. -/
theorem groupingCommand_alone [Host] {names : Naming} {q : Select} {c : Command}
    (h : groupingCommand names none q = .ok c) :
    ∃ stages filter sort, groupStages names q = .ok stages ∧
      Filter.ofPredicates? names (q.wheres ++ q.having) = .ok filter ∧
      sortStages names q = .ok sort ∧
      c = .aggregate q.collection
        (extremumStages q ++ stages ++ matchStages filter ++ sort ++ windowStages q.limit) := by
  obtain ⟨lookup, hlookup, h⟩ := Except.bind_eq_ok.mp h
  obtain ⟨key, hkey, h⟩ := Except.bind_eq_ok.mp h
  obtain ⟨accs, haccs, h⟩ := Except.bind_eq_ok.mp h
  obtain ⟨projection, hprojection, h⟩ := Except.bind_eq_ok.mp h
  obtain ⟨filter, hfilter, h⟩ := Except.bind_eq_ok.mp h
  obtain ⟨sort, hsort, h⟩ := Except.bind_eq_ok.mp h
  cases hlookup
  rw [List.append_nil] at h
  exact ⟨_, filter, sort,
    groupStages_eq_ok.mpr ⟨key, accs, projection, hkey, haccs, hprojection, rfl⟩, hfilter, hsort,
    (Except.ok.inj h).symm⟩

/-- The accumulator of an aggregate. -/
def accumulatorOf (f : Aggregation) (name : String) : String × Value :=
  (aggregatedName f name, .document [(f.accumulator, .string ("$" ++ name))])

section

variable {names : Naming} {columns : List Column} {key : Value} {accs : List (String × Value)}
  (haccs : accumulators names columns = .ok accs)

include haccs

theorem exists_column_of_mem_accumulators {e : String × Value} (he : e ∈ accs) :
    ∃ c ∈ columns, ∃ f, c.aggregation = some f ∧ e = accumulatorOf f c.name := by
  obtain ⟨⟨c, f⟩, hmem, he⟩ := Except.exists_of_mem_mapM haccs he
  obtain ⟨other, hc, haggregation⟩ := List.mem_filterMap.mp hmem
  obtain ⟨g, hg, heq⟩ := Option.map_eq_some_iff.mp haggregation
  cases heq
  obtain ⟨field, hfield, he⟩ := Except.bind_eq_ok.mp he
  cases he
  refine ⟨c, hc, f, hg, ?_⟩
  rw [accumulatorOf, Naming.field_aggregated hg hfield]

theorem mem_accumulators {c : Column} (hc : c ∈ columns) {f : Aggregation}
    (hf : c.aggregation = some f) : accumulatorOf f c.name ∈ accs := by
  have hmem : (c, f) ∈ columns.filterMap fun c => c.aggregation.map (c, ·) :=
    List.mem_filterMap.mpr ⟨c, hc, by rw [hf]; rfl⟩
  obtain ⟨e, he, hstep⟩ := Except.exists_mem_of_mapM haccs hmem
  obtain ⟨field, hfield, hstep⟩ := Except.bind_eq_ok.mp hstep
  cases hstep
  rwa [Naming.field_aggregated hf hfield] at he

theorem get?_groupSpec_aggregate {c : Column} (hc : c ∈ columns) {f : Aggregation}
    (hf : c.aggregation = some f) :
    (groupSpec key accs).get? (aggregatedName f c.name) =
      some (.document [(f.accumulator, .string ("$" ++ c.name))]) := by
  have hrecord : aggregatedName f c.name ≠ recordField := aggregatedName_ne (by decide) f c.name
  have hmem : accumulatorOf f c.name ∈ accs.filter (·.1 = aggregatedName f c.name) :=
    List.mem_filter.mpr ⟨mem_accumulators haccs hc hf, by simp [accumulatorOf]⟩
  rw [groupSpec, Fields.get?_set, if_neg hrecord, Fields.get?_setAll]
  cases hlast : (accs.filter (·.1 = aggregatedName f c.name)).getLast? with
  | none => exact absurd (List.getLast?_eq_none_iff.mp hlast) (List.ne_nil_of_mem hmem)
  | some e =>
    -- an aggregate that is selected twice has one accumulator
    obtain ⟨he, hname⟩ := List.mem_filter.mp (List.mem_of_getLast? hlast)
    obtain ⟨d, -, g, -, rfl⟩ := exists_column_of_mem_accumulators haccs he
    obtain ⟨rfl, heq⟩ := aggregatedName_injective (of_decide_eq_true hname)
    rw [Option.map_some, Option.some_or, accumulatorOf, heq]

theorem get?_groupSpec_identity : (groupSpec key accs).get? "_id" = some key := by
  have hnone : accs.filter (·.1 = "_id") = [] := by
    rw [List.filter_eq_nil_iff]
    intro e he hid
    obtain ⟨c, -, f, -, rfl⟩ := exists_column_of_mem_accumulators haccs he
    exact aggregatedName_ne (by decide) f c.name (of_decide_eq_true hid)
  rw [groupSpec, Fields.get?_set, if_neg (by decide), Fields.get?_setAll, hnone]
  rfl

end

end Plan

/-! ### Rows -/

namespace Pipeline

open Plan SqlGateway.Group

variable {source : Source} {key : Value} {accs : List (String × Value)} {projection : Document}

theorem replaceRoot_eq_ok {docs roots : List Document} {e : Value} :
    replaceRoot docs [("newRoot", e)] = .ok roots ↔
      List.Forall₂ (fun d (root : Document) =>
        Expression.evaluate d e = .ok (some (.document root))) docs roots := by
  change (docs.mapM _ : Staged) = .ok roots ↔ _
  rw [Except.mapM_eq_ok_iff_forall₂]
  refine iff_of_eq (congrArg (List.Forall₂ · docs roots) ?_)
  funext d root
  refine propext ⟨fun h => ?_, fun h => Except.bind_eq_ok.mpr ⟨_, h, rfl⟩⟩
  obtain ⟨v, hv, h⟩ := Except.bind_eq_ok.mp h
  split at h
  · cases h
    exact hv
  · cases h

/-- The stages give a row for each part, if all documents can be grouped. -/
theorem run_rowStages_eq_ok [Host] (hkey : (groupSpec key accs).get? "_id" = some key)
    {docs rows : List Document} :
    run source docs (rowStages key accs projection) = .ok rows ↔
      ∃ fields, ((groupSpec key accs).filter (·.1 != "_id")).mapM
          (fun e => readField e.1 e.2) = .ok fields ∧
        (∀ d ∈ docs, Groupable fields key d) ∧
        List.Forall₂ (fun part row => ∃ root : Document,
          Expression.evaluate (summary fields key part) (overlay accs) =
            .ok (some (.document root)) ∧ root.project projection = .ok row)
          (split (sameKey key) docs) rows := by
  have hrun : run source docs (rowStages key accs projection) = (do
      let summaries ← collect docs (groupSpec key accs)
      let roots ← replaceRoot summaries [("newRoot", overlay accs)]
      roots.mapM (Document.project · projection)) :=
    bind_congr fun summaries => bind_congr fun roots => bind_pure _
  rw [hrun, Except.bind_eq_ok]
  simp only [Except.bind_eq_ok, replaceRoot_eq_ok, Except.mapM_eq_ok_iff_forall₂,
    List.exists_forall₂_forall₂_iff]
  constructor
  · rintro ⟨summaries, hsummaries, h⟩
    obtain ⟨key', fields, hkey', hfields, hdocs, rfl⟩ := collect_eq_ok.mp hsummaries
    obtain rfl : key = key' := Option.some.inj (hkey.symm.trans hkey')
    exact ⟨fields, Except.mapM_eq_ok_iff_forall₂.mp hfields, hdocs, List.forall₂_map_left_iff.mp h⟩
  · rintro ⟨fields, hfields, hdocs, h⟩
    exact ⟨_, collect_eq_ok.mpr ⟨key, fields, hkey, Except.mapM_eq_ok_iff_forall₂.mpr hfields,
      hdocs, rfl⟩, List.forall₂_map_left_iff.mpr h⟩

/-- Each row is what the stages give for the documents of its part alone. -/
theorem forall₂_of_run_rowStages [Host] (hkey : (groupSpec key accs).get? "_id" = some key)
    {docs rows : List Document}
    (h : run source docs (rowStages key accs projection) = .ok rows) :
    List.Forall₂ (fun part row => run source part (rowStages key accs projection) = .ok [row])
      (split (sameKey key) docs) rows := by
  obtain ⟨fields, hfields, hdocs, hrows⟩ := (run_rowStages_eq_ok hkey).mp h
  refine hrows.imp_of_mem fun part hpart row hrow => ?_
  have hmem := subset_of_mem_split hpart
  rw [run_rowStages_eq_ok hkey, split_of_mem hpart]
  exact ⟨fields, hfields, fun d hd => hdocs d (hmem hd), .cons hrow .nil⟩

/-! ### Orders and windows -/

variable {docs rows : List Document}

theorem perm_of_run_extremumStages [Host] {q : Select}
    (h : run source docs (extremumStages q) = .ok rows) : rows.Perm docs := by
  rw [extremumStages] at h
  split at h
  · rw [run_sort] at h
    exact Document.perm_of_sort h
  · cases h
    exact .refl docs

theorem perm_of_run_sortStages [Host] {names : Naming} {q : Select} {sort : List Document}
    (hsort : sortStages names q = .ok sort) (h : run source docs sort = .ok rows) :
    rows.Perm docs := by
  rw [sortStages] at hsort
  split at hsort
  · obtain ⟨spec, -, hsort⟩ := Except.bind_eq_ok.mp hsort
    cases hsort
    rw [run_sort] at h
    exact Document.perm_of_sort h
  · cases hsort
    cases h
    exact .refl docs

theorem sublist_of_run_windowStages [Host] {limit : Option Limit}
    (h : run source docs (windowStages limit) = .ok rows) : rows.Sublist docs := by
  rw [windowStages] at h
  split at h
  · obtain ⟨skipped, hskip, h⟩ := Except.bind_eq_ok.mp h
    obtain ⟨limited, hlimit, h⟩ := Except.bind_eq_ok.mp h
    cases h
    obtain ⟨n, -, hskip⟩ := Except.bind_eq_ok.mp hskip
    obtain ⟨m, -, hlimit⟩ := Except.bind_eq_ok.mp hlimit
    cases hskip
    split at hlimit
    · cases hlimit
    · cases hlimit
      exact (List.take_sublist _ _).trans (List.drop_sublist _ _)
  · cases h
    exact .refl docs

end Pipeline

end SqlGateway
