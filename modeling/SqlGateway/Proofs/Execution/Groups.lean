import Mathlib.Data.List.Perm.Subperm
import SqlGateway.Proofs.Execution.Selecting
import SqlGateway.Proofs.Plan.GroupKeys
import SqlGateway.Proofs.Plan.Groupings
import SqlGateway.Proofs.Value.Preorder

/-! The groups of a SELECT. Its rows are made group by group, and documents belong to one group if
they agree at the paths of the key. Where no two of the paths are written alike and no path is
missing in one document and null in another, these are the documents that agree at all grouped
columns, with null for what is missing. -/

namespace SqlGateway

attribute [local instance] Host.universal

/-! ### Agreeing at a path -/

namespace Document

variable {path : String}

theorem sameAt_self (path : String) (d : Document) : d.sameAt path d = true := by
  rw [sameAt]
  cases d.getPath? path with
  | none => rfl
  | some v => exact v.equal_self

theorem sameAt_symm {d e : Document} (h : d.sameAt path e = true) : e.sameAt path d = true := by
  rw [sameAt] at h ⊢
  revert h
  cases d.getPath? path <;> cases e.getPath? path
  · exact id
  · exact fun h => absurd h Bool.false_ne_true
  · exact fun h => absurd h Bool.false_ne_true
  · exact Value.equal_symm

theorem sameAt_trans {d e f : Document} (hd : ∀ v ∈ d.getPath? path, v.Exact)
    (he : ∀ v ∈ e.getPath? path, v.Exact) (hf : ∀ v ∈ f.getPath? path, v.Exact)
    (hde : d.sameAt path e = true) (hef : e.sameAt path f = true) : d.sameAt path f = true := by
  rw [sameAt] at hde hef ⊢
  revert hd he hf hde hef
  cases d.getPath? path <;> cases e.getPath? path <;> cases f.getPath? path
  case some.some.some v w u =>
    exact fun hv hw hu hvw hwu => Value.equal_trans (hv v rfl) (hw w rfl) (hu u rfl) hvw hwu
  all_goals intro _ _ _ hde hef; first | exact hef | cases hde

/-- Where missing and null do not meet, agreeing at a path is having equal values there, with null
for a missing one. -/
theorem sameAt_iff {d e : Document} (h : d.getPath? path ≠ none ∧ e.getPath? path ≠ none ∨
      (∀ v ∈ d.getPath? path, v.equal .null = false) ∧
        ∀ v ∈ e.getPath? path, v.equal .null = false) :
    d.sameAt path e = true ↔
      ((d.getPath? path).getD .null).equal ((e.getPath? path).getD .null) = true := by
  rw [sameAt]
  cases hd : d.getPath? path with
  | none =>
    cases he : e.getPath? path with
    | none => exact iff_of_true rfl rfl
    | some w =>
      have hw := (h.resolve_left fun hboth => hboth.1 hd).2 w he
      exact iff_of_false Bool.false_ne_true fun hequal =>
        Bool.false_ne_true (hw.symm.trans (Value.equal_symm hequal))
  | some v =>
    cases he : e.getPath? path with
    | none =>
      have hv := (h.resolve_left fun hboth => hboth.2 he).1 v hd
      exact iff_of_false Bool.false_ne_true fun hequal =>
        Bool.false_ne_true (hv.symm.trans hequal)
    | some w => exact Iff.rfl

end Document

/-! ### Statements -/

namespace Gateway

open Execution MemoryStore

variable {database : String}

/-- How a grouping SELECT without a join has gone: its documents are sorted by its first MAX or MIN
column, then come its rows, and these are filtered, ordered and cut. -/
theorem run_of_fetch_selects [Host] {q : Select} {join : Option Join} {c : Command} {target : ProbeTarget}
    (hselects : Plan.Selects q join .grouping c target) (hjoins : q.joins = [])
    {r r' : Run MemoryStore} (hs : r.store.Sound) (hroom : r.store.nextCursor < 2 ^ 63)
    {docs : List Document} (h : Ends (fetch store database c) r (.ok docs) r') :
    ∃ stages arranged rows, Plan.groupStages .plain q = .ok stages ∧
      Pipeline.run (r.store.databases.documents database)
        (r.store.databases.documents database q.collection) (Plan.extremumStages q) =
          .ok arranged ∧
      Pipeline.run (r.store.databases.documents database) arranged stages = .ok rows ∧
      docs.Subperm rows ∧
      (q.wheres = [] → q.having = [] → q.limit = none → docs.Perm rows) := by
  obtain rfl : none = join := by
    have hjoin := hselects.joins
    rw [Plan.singleJoin, hjoins] at hjoin
    exact Except.ok.inj hjoin
  obtain ⟨stages, filter, sort, hstages, hfilter, hsort, rfl⟩ :=
    Plan.groupingCommand_alone hselects.runs
  obtain ⟨-, hrun⟩ := run_of_fetch_sound hs hroom h
  rw [Pipeline.run_append, Except.bind_eq_ok] at hrun
  obtain ⟨sorted, hsorted, hdocs⟩ := hrun
  rw [Pipeline.run_append, Except.bind_eq_ok] at hsorted
  obtain ⟨matched, hmatched, hsorted⟩ := hsorted
  rw [Pipeline.run_append, Except.bind_eq_ok] at hmatched
  obtain ⟨rows, hrows, hmatched⟩ := hmatched
  rw [Pipeline.run_append, Except.bind_eq_ok] at hrows
  obtain ⟨arranged, harranged, hrows⟩ := hrows
  obtain ⟨-, rfl⟩ := Pipeline.run_matchStages.mp hmatched
  have hperm := Pipeline.perm_of_run_sortStages hsort hsorted
  refine ⟨stages, arranged, rows, hstages, harranged, hrows, ?_, fun hwheres hhaving hlimit => ?_⟩
  · have hwindow := Pipeline.sublist_of_run_windowStages hdocs
    exact (hwindow.subperm.trans hperm.subperm).trans List.filter_sublist.subperm
  · rw [hwheres, hhaving] at hfilter
    cases hfilter
    rw [hlimit] at hdocs
    cases hdocs
    have hall : rows.filter (Document.accepts []) = rows :=
      List.filter_eq_self.mpr fun _ _ => rfl
    exact hall ▸ hperm

/-- The documents of a grouping SELECT are made of groups, one of each group alone. -/
theorem exists_groups_of_fetch [Host] {q : Select} {join : Option Join} {c : Command}
    {target : ProbeTarget} (hselects : Plan.Selects q join .grouping c target)
    (hjoins : q.joins = []) {r r' : Run MemoryStore} (hs : r.store.Sound)
    (hroom : r.store.nextCursor < 2 ^ 63) {docs : List Document}
    (h : Ends (fetch store database c) r (.ok docs) r') :
    ∃ key accs projection arranged groups, Plan.groupKey .plain q.groupBy = .ok key ∧
      Plan.accumulators .plain q.columns = .ok accs ∧
      projectionOf .plain q.columns = .ok projection ∧
      arranged.Perm (r.store.databases.documents database q.collection) ∧
      groups.Subperm (Group.split (Group.sameKey key) arranged) ∧
      (q.wheres = [] → q.having = [] → q.limit = none →
        groups.Perm (Group.split (Group.sameKey key) arranged)) ∧
      List.Forall₂ (fun group d => Pipeline.run (r.store.databases.documents database) group
        (Plan.rowStages key accs projection) = .ok [d]) groups docs := by
  obtain ⟨stages, arranged, rows, hstages, harranged, hrows, hsome, hall⟩ :=
    run_of_fetch_selects hselects hjoins hs hroom h
  obtain ⟨key, accs, projection, hkey, haccs, hprojection, rfl⟩ :=
    Plan.groupStages_eq_ok.mp hstages
  have hsplit := Pipeline.forall₂_of_run_rowStages (Plan.get?_groupSpec_identity haccs) hrows
  obtain ⟨groups, hgroups, hpaired⟩ := hsplit.exists_of_subperm hsome
  refine ⟨key, accs, projection, arranged, groups, hkey, haccs, hprojection,
    Pipeline.perm_of_run_extremumStages harranged, hgroups, fun hwheres hhaving hlimit => ?_,
    hpaired⟩
  have hlength := (hall hwheres hhaving hlimit).length_eq
  rw [← hpaired.length_eq, ← hsplit.length_eq] at hlength
  exact hgroups.perm_of_length_le hlength.ge

theorem run_of_fetch_grouping [Host] {q : Select} {p : Plan} {c : Command}
    (hplan : Plan.ofSelect q = .ok p) (hshape : p.shape = .select .grouping)
    (hcommand : singleCommand p = .ok c) (hjoins : q.joins = []) (hwheres : q.wheres = [])
    (hhaving : q.having = []) {r r' : Run MemoryStore} (hs : r.store.Reachable)
    (hroom : r.store.nextCursor < 2 ^ 63) {docs : List Document}
    (h : Ends (fetch store database c) r (.ok docs) r') :
    ∃ stages arranged rows, Plan.groupStages .plain q = .ok stages ∧
      Pipeline.run (r.store.databases.documents database)
        (r.store.databases.documents database q.collection) (Plan.extremumStages q) =
          .ok arranged ∧
      Pipeline.run (r.store.databases.documents database) arranged stages = .ok rows ∧
      docs.Subperm rows ∧ (q.limit = none → docs.Perm rows) := by
  obtain ⟨join, strategy, command, target, hselects, rfl⟩ := Plan.ofSelect_eq_ok.mp hplan
  cases hshape
  cases hcommand
  obtain ⟨stages, arranged, rows, hstages, harranged, hrows, hsome, hall⟩ :=
    run_of_fetch_selects hselects hjoins (sound_of_reachable hs) hroom h
  exact ⟨stages, arranged, rows, hstages, harranged, hrows, hsome, hall hwheres hhaving⟩

/-- A grouping SELECT gives one row for each class of documents that agree at the paths that are
left in its key, made of the documents of the class alone. If its columns have different names in
the key, and no column is missing in one document and null in another, two documents are in one
class exactly if they have equal values in all columns, with null for a missing one. -/
theorem fetch_groups [Host] {q : Select} {p : Plan} {c : Command} (hplan : Plan.ofSelect q = .ok p)
    (hshape : p.shape = .select .grouping) (hcommand : singleCommand p = .ok c)
    (hjoins : q.joins = []) (hwheres : q.wheres = []) (hhaving : q.having = [])
    (hlimit : q.limit = none) {fields : List String}
    (hfields : q.groupBy.mapM Naming.plain.field = .ok fields)
    (hundollared : ∀ f ∈ fields, f.toList.head? ≠ some '$') {r r' : Run MemoryStore}
    (hs : r.store.Reachable) (hroom : r.store.nextCursor < 2 ^ 63) {stored : List Document}
    (hstored : r.store.databases.documents database q.collection = stored)
    (hexact : ∀ d ∈ stored, ∀ f ∈ fields, ∀ v ∈ d.getPath? f, v.Exact) {docs : List Document}
    (h : Ends (fetch store database c) r (.ok docs) r') :
    ∃ stages groups rows, Plan.groupStages .plain q = .ok stages ∧ docs.Perm rows ∧
      List.Forall₂ (fun group row =>
        Pipeline.run (r.store.databases.documents database) group stages = .ok [row])
          groups rows ∧
      Group.Classes (fun d e => ∀ f ∈ Plan.keyPaths fields, d.sameAt f.2 e = true)
        stored groups ∧
      ((∀ f ∈ fields, ∀ g ∈ fields, Plan.underscored f = Plan.underscored g → f = g) →
        (∀ f ∈ fields, (∀ d ∈ stored, d.getPath? f ≠ none) ∨
          ∀ d ∈ stored, ∀ v ∈ d.getPath? f, v.equal .null = false) →
        Group.Classes (fun d e => ∀ f ∈ fields,
          ((d.getPath? f).getD .null).equal ((e.getPath? f).getD .null) = true) stored groups) := by
  obtain ⟨stages, arranged, rows, hstages, harranged, hrows, -, hdocs⟩ :=
    run_of_fetch_grouping hplan hshape hcommand hjoins hwheres hhaving hs hroom h
  obtain ⟨key, accs, projection, hkey, haccs, hprojection, rfl⟩ :=
    Plan.groupStages_eq_ok.mp hstages
  rw [hstored] at harranged
  have hperm := Pipeline.perm_of_run_extremumStages harranged
  have hvalues : ∀ d ∈ arranged, ∀ f ∈ Plan.keyPaths fields, ∀ v ∈ d.getPath? f.2, v.Exact :=
    fun d hd f hf => hexact d (hperm.subset hd) f.2 (Plan.mem_keyPaths hf).1
  have hsplit : Group.Classes (fun d e => ∀ f ∈ Plan.keyPaths fields, d.sameAt f.2 e = true)
      arranged (Group.split (Group.sameKey key) arranged) := by
    refine Group.classes_split
      (fun d _ e _ => Plan.sameKey_groupKey hfields hundollared hkey d e) ?_ ?_ ?_
    · exact fun d _ f _ => d.sameAt_self f.2
    · exact fun d _ e _ hde f hf => Document.sameAt_symm (hde f hf)
    · exact fun d hd e he g hg hde heg f hf =>
        Document.sameAt_trans (hvalues d hd f hf) (hvalues e he f hf) (hvalues g hg f hf)
          (hde f hf) (heg f hf)
  have hclasses : Group.Classes (fun d e => ∀ f ∈ Plan.keyPaths fields, d.sameAt f.2 e = true)
      stored (Group.split (Group.sameKey key) arranged) :=
    { hsplit with perm := hsplit.perm.trans hperm }
  refine ⟨_, _, rows, hstages, hdocs hlimit,
    Pipeline.forall₂_of_run_rowStages (Plan.get?_groupSpec_identity haccs) hrows, hclasses, ?_⟩
  intro hdistinct hpresent
  refine hclasses.congr fun d hd e he => ?_
  have hat (f : String) (hf : f ∈ fields) : d.sameAt f e = true ↔
      ((d.getPath? f).getD .null).equal ((e.getPath? f).getD .null) = true :=
    Document.sameAt_iff ((hpresent f hf).imp (fun hall => ⟨hall d hd, hall e he⟩)
      fun hall => ⟨hall d hd, hall e he⟩)
  constructor
  · intro hde f hf
    exact (hat f hf).mp (hde _ ((Plan.mem_keyPaths_iff hdistinct).mpr hf))
  · intro hde f hf
    have hfield := (Plan.mem_keyPaths hf).1
    exact (hat f.2 hfield).mpr (hde f.2 hfield)

/-- The sums of one column by others. -/
def sumsBy (columns : List String) : Select :=
  { collection := "t", columns := [.aggregated .sum "n"], groupBy := columns.map .named }

/-- Numbers beside a nested column and a plain one, two of them with equal values in both. -/
def nestedKeys : List Document :=
  [[("_id", .int 1), ("a", .document [("b", .int 1)]), ("c", .string "x"), ("n", .int 1)],
    [("_id", .int 2), ("a", .document [("b", .int 2)]), ("c", .string "x"), ("n", .int 2)],
    [("_id", .int 3), ("a", .document [("b", .long 1)]), ("c", .string "x"), ("n", .int 4)]]

theorem fetch_groups_nested :
    ∃ p c r stages groups rows, Plan.ofSelect (sumsBy ["a.b", "c"]) = .ok p ∧
      singleCommand p = .ok c ∧ Ends (fetch store "app" c) { store := .holding "t" nestedKeys }
        (.ok [[("SUM_n", .int 5)], [("SUM_n", .int 2)]]) r ∧
      Plan.groupStages .plain (sumsBy ["a.b", "c"]) = .ok stages ∧
      [[("SUM_n", .int 5)], [("SUM_n", .int 2)]].Perm rows ∧
      List.Forall₂ (fun group row =>
        Pipeline.run ((MemoryStore.holding "t" nestedKeys).databases.documents "app") group stages =
          .ok [row]) groups rows ∧
      Group.Classes (fun d e => ∀ f ∈ ["a.b", "c"],
        ((d.getPath? f).getD .null).equal ((e.getPath? f).getD .null) = true)
          nestedKeys groups := by
  obtain ⟨p, c, r, hplan, hshape, hcommand, hfetch⟩ : ∃ p c r,
      Plan.ofSelect (sumsBy ["a.b", "c"]) = .ok p ∧ p.shape = .select .grouping ∧
      singleCommand p = .ok c ∧ Ends (fetch store "app" c) { store := .holding "t" nestedKeys }
        (.ok [[("SUM_n", .int 5)], [("SUM_n", .int 2)]]) r :=
    ⟨_, _, _, rfl, rfl, rfl, rfl⟩
  have hfields : (sumsBy ["a.b", "c"]).groupBy.mapM Naming.plain.field = .ok ["a.b", "c"] := rfl
  have hstored : (MemoryStore.holding "t" nestedKeys).databases.documents "app" "t" =
      nestedKeys := rfl
  have hexact : ∀ d ∈ nestedKeys, ∀ f ∈ ["a.b", "c"], ∀ v ∈ d.getPath? f, v.Exact := by
    decide +kernel
  obtain ⟨stages, groups, rows, hstages, hperm, hrows, -, hclasses⟩ :=
    fetch_groups hplan hshape hcommand rfl rfl rfl rfl hfields (by decide)
      (MemoryStore.reachable_holding "t" nestedKeys) (by decide) hstored hexact hfetch
  have hpresent : ∀ f ∈ ["a.b", "c"], (∀ d ∈ nestedKeys, d.getPath? f ≠ none) ∨
      ∀ d ∈ nestedKeys, ∀ v ∈ d.getPath? f, v.equal .null = false := by
    have hall : ∀ f ∈ ["a.b", "c"], ∀ d ∈ nestedKeys, (d.getPath? f).isSome = true := by
      decide +kernel
    exact fun f hf => .inl fun d hd => Option.isSome_iff_ne_none.mp (hall f hf d hd)
  exact ⟨p, c, r, stages, groups, rows, hplan, hcommand, hfetch, hstages, hperm, hrows,
    hclasses (by decide) hpresent⟩

/-- Different values at a nested column and equal ones at the column that is written alike. -/
def alikeKeys : List Document :=
  [[("_id", .int 1), ("a", .document [("b", .int 1)]), ("a_b", .int 5), ("n", .int 1)],
    [("_id", .int 2), ("a", .document [("b", .int 2)]), ("a_b", .int 5), ("n", .int 2)]]

/-- A missing column and one that is null. -/
def sparseKeys : List Document :=
  [[("_id", .int 1), ("n", .int 1)], [("_id", .int 2), ("g", .null), ("n", .int 2)]]

/-- Documents that differ in a grouped column are put together, and documents that agree in it, with
null for what is missing, are kept apart. -/
theorem fetch_groups_merged_and_parted :
    (∃ p c r, Plan.ofSelect (sumsBy ["a.b", "a_b"]) = .ok p ∧ p.shape = .select .grouping ∧
      singleCommand p = .ok c ∧
      Ends (fetch store "app" c) { store := .holding "t" alikeKeys }
        (.ok [[("SUM_n", .int 3)]]) r ∧
      ∃ d ∈ alikeKeys, ∃ e ∈ alikeKeys,
        ((d.getPath? "a.b").getD .null).equal ((e.getPath? "a.b").getD .null) = false) ∧
    ∃ p c r, Plan.ofSelect (sumsBy ["g"]) = .ok p ∧ p.shape = .select .grouping ∧
      singleCommand p = .ok c ∧
      Ends (fetch store "app" c) { store := .holding "t" sparseKeys }
        (.ok [[("SUM_n", .int 1)], [("SUM_n", .int 2)]]) r ∧
      ∀ d ∈ sparseKeys, ∀ e ∈ sparseKeys,
        ((d.getPath? "g").getD .null).equal ((e.getPath? "g").getD .null) = true := by
  refine ⟨⟨_, _, _, rfl, rfl, rfl, rfl, ?_⟩, _, _, _, rfl, rfl, rfl, rfl, by decide +kernel⟩
  exact ⟨_, List.mem_cons_self, _, List.mem_cons_of_mem _ List.mem_cons_self, by decide +kernel⟩

end Gateway

end SqlGateway
