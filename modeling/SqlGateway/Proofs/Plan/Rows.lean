import SqlGateway.Proofs.Plan.GroupKeys
import SqlGateway.Proofs.Plan.Groupings

/-! The rows of groups. A row is projected from the first document of its group, after the
aggregates of the group have been written over it. -/

namespace SqlGateway

/-! ### Fields of a group -/

namespace Group

variable {spec : Document} {fields : List GroupField}

theorem name_of_readField {name : String} {v : Value} {f : GroupField}
    (h : readField name v = .ok f) : f.name = name := by
  rw [readField.eq_def] at h
  split at h
  · split at h <;> cases h
    rfl
  · cases h
  · cases h

/-- The first value that is taken in is kept. -/
theorem accumulate_first {f : GroupField} (hf : f.kind = .first) (d : Document)
    (rest : List Document) :
    accumulate taken (d :: rest) f = .first (some ((taken f d).getD .null)) := by
  rw [accumulate, List.foldl_cons, hf]
  induction rest with
  | nil => rfl
  | cons e rest ih => exact ih

/-- What a group has accumulated in a field stands in its document. -/
theorem get?_summary (hfields : (spec.filter (·.1 != "_id")).mapM
      (fun e => readField e.1 e.2) = .ok fields) (hdistinct : (Fields.keys spec).Nodup)
    {name op : String} {e : Value} {kind : AccumulatorKind} (hid : name ≠ "_id")
    (hspec : spec.get? name = some (.document [(op, e)]))
    (hkind : AccumulatorKind.ofName? op = some kind) (key : Value) (part : List Document) :
    Fields.get? (summary fields key part) name =
      some (accumulate taken part ⟨name, kind, e⟩).finish := by
  have hmem : (name, Value.document [(op, e)]) ∈ spec.filter (·.1 != "_id") :=
    List.mem_filter.mpr ⟨Fields.mem_of_get? hspec, by simpa using hid⟩
  obtain ⟨f, hf, hread⟩ := Except.exists_mem_of_mapM hfields hmem
  rw [readField, hkind] at hread
  cases hread
  have hnames : fields.map (·.name) = (spec.filter (·.1 != "_id")).map (·.1) :=
    Except.map_of_mapM (fun e f => name_of_readField) hfields
  have hkeys : (Fields.keys
      (fields.map fun f => (f.name, (accumulate taken part f).finish))).Nodup := by
    rw [Fields.keys, List.map_map]
    change (fields.map (·.name)).Nodup
    rw [hnames]
    exact hdistinct.sublist (List.filter_sublist.map _)
  rw [summary, Fields.get?_cons, if_neg hid]
  exact Fields.get?_of_mem hkeys (List.mem_map.mpr ⟨_, hf, rfl⟩)

end Group

/-! ### Aggregates over first documents -/

namespace Plan

variable {accs : List (String × Value)}

/-- The fields of aggregates, each under its own name. -/
def aggregatePaths (accs : List (String × Value)) : Fields String :=
  Fields.ofList (accs.map fun (f, _) => (f, f))

theorem aggregates_eq (accs : List (String × Value)) :
    aggregates accs = (aggregatePaths accs).map fun e => (e.1, .string ("$" ++ e.2)) := by
  have hlist := Fields.setAll_map [] (fun f => Value.string ("$" ++ f))
    (accs.map fun e => (e.1, e.1))
  rw [List.map_map] at hlist
  exact hlist

theorem mem_aggregatePaths {e : String × String} (h : e ∈ aggregatePaths accs) :
    e.2 = e.1 ∧ e.1 ∈ accs.map (·.1) := by
  obtain ⟨a, ha, rfl⟩ :=
    List.mem_map.mp ((Fields.mem_of_mem_setAll h).resolve_left List.not_mem_nil)
  exact ⟨rfl, List.mem_map.mpr ⟨a, ha, rfl⟩⟩

theorem mem_aggregatePaths_of_mem {name : String} (h : name ∈ accs.map (·.1)) :
    (name, name) ∈ aggregatePaths accs := by
  have hkey : name ∈ (aggregatePaths accs).keys :=
    Fields.mem_keys_setAll.mpr (.inr (by rwa [List.map_map]))
  obtain ⟨e, he, hname⟩ := List.mem_map.mp hkey
  have hentry : e = (name, name) := Prod.ext hname ((mem_aggregatePaths he).1.trans hname)
  exact hentry ▸ he

theorem evaluate_overlay (haccs : ∀ e ∈ accs, e.1.toList.head? ≠ some '$') {summary lead : Document}
    (hrecord : Fields.get? summary recordField = some (.document lead)) :
    Expression.evaluate summary (overlay accs) = .ok (some (.document
      ((Fields.setAll [] lead).setAll (summary.shown (aggregatePaths accs))))) := by
  have hundollared : ∀ e ∈ aggregatePaths accs, e.2.toList.head? ≠ some '$' := by
    intro e he
    obtain ⟨hsame, hmem⟩ := mem_aggregatePaths he
    obtain ⟨a, ha, hname⟩ := List.mem_map.mp hmem
    exact hsame ▸ hname ▸ haccs a ha
  have hfirst : Expression.evaluate summary (.string ("$" ++ recordField)) =
      .ok (some (.document lead)) := by
    rw [Expression.evaluate_field (by decide), hrecord]
  have hplain : Expression.isOperation (aggregates accs) = false := by
    refine Expression.isOperation_of_undollared fun e he => ?_
    rw [aggregates_eq] at he
    obtain ⟨f, hf, rfl⟩ := List.mem_map.mp he
    exact (mem_aggregatePaths hf).1 ▸ hundollared f hf
  have haggregates : Expression.evaluate summary (.document (aggregates accs)) =
      .ok (some (.document (summary.shown (aggregatePaths accs)))) := by
    rw [Expression.evaluate, hplain, if_neg (by decide), aggregates_eq,
      Expression.evaluateFields_paths hundollared]
    rfl
  have hmerge (x y : Value) :
      Expression.evaluate summary (.document [("$mergeObjects", .array [x, y])]) = (do
        return some (.document (← Expression.mergeObjects []
          [Expression.evaluate summary x, Expression.evaluate summary y]))) := by
    simp [Expression.evaluate, Expression.isOperation, Expression.evaluateOperation,
      Expression.evaluateEach, Expression.apply]
  rw [overlay, hmerge, hfirst, haggregates]
  rfl

/-- What a row is projected from: the first document of its group under its aggregates. -/
structure Overlays (columns : List Column) (lead : Document) (part : List Document)
    (root : Document) : Prop where
  aggregate : ∀ c ∈ columns, '.' ∉ c.name.toList → ∀ f, c.aggregation = some f → ∀ kind,
    AccumulatorKind.ofName? f.accumulator = some kind →
    root.get? (aggregatedName f c.name) = some (Group.accumulate Group.taken part
      ⟨aggregatedName f c.name, kind, .string ("$" ++ c.name)⟩).finish
  lead : ∀ name, (∀ c ∈ columns, ∀ f, c.aggregation = some f → name ≠ aggregatedName f c.name) →
    root.get? name = lead.get? name

theorem nodup_keys_groupSpec (key : Value) (accs : List (String × Value)) :
    (Fields.keys (groupSpec key accs)).Nodup := by
  have hkey : (Fields.keys [("_id", key)]).Nodup := List.nodup_singleton _
  exact Fields.nodup_keys_set (Fields.nodup_keys_setAll hkey accs) _ _

section

variable {names : Naming} {columns : List Column} {key : Value} {fields : List GroupField}
  (haccs : accumulators names columns = .ok accs)
  (hfields : ((groupSpec key accs).filter (·.1 != "_id")).mapM
    (fun e => Group.readField e.1 e.2) = .ok fields)

include hfields

/-- The first document of a group stands in the group's document. -/
theorem get?_summary_record (lead : Document) (rest : List Document) :
    Fields.get? (Group.summary fields key (lead :: rest)) recordField = some (.document lead) := by
  have hfirst : (groupSpec key accs).get? recordField =
      some (.document [("$first", .string "$$ROOT")]) :=
    (Fields.get?_set _ _ _ _).trans (if_pos rfl)
  rw [Group.get?_summary hfields (nodup_keys_groupSpec key accs) (by decide) hfirst rfl,
    Group.accumulate_first rfl]
  rfl

include haccs

theorem overlays_shown (lead : Document) (part : List Document) :
    Overlays columns lead part
      (lead.setAll ((Group.summary fields key part).shown (aggregatePaths accs))) where
  aggregate c hc hname f hf kind hkind := by
    have hplain := plainName_aggregatedName hname f
    have hget := Group.get?_summary hfields (nodup_keys_groupSpec key accs) hplain.ordinary
      (get?_groupSpec_aggregate haccs hc hf) hkind key part
    generalize (Group.accumulate Group.taken part
      ⟨aggregatedName f c.name, kind, .string ("$" ++ c.name)⟩).finish = v at hget ⊢
    have hpath : (aggregatedName f c.name, aggregatedName f c.name) ∈ aggregatePaths accs :=
      mem_aggregatePaths_of_mem (List.mem_map.mpr ⟨_, mem_accumulators haccs hc hf, rfl⟩)
    have hshown : (aggregatedName f c.name, v) ∈
        (Group.summary fields key part).shown (aggregatePaths accs) := by
      refine List.mem_filterMap.mpr ⟨_, hpath, ?_⟩
      rw [Document.getPath?_of_dotless hplain.dotless, hget]
      rfl
    have hpaths : (aggregatePaths accs).keys.Nodup :=
      Fields.nodup_keys_setAll (show (Fields.keys ([] : Fields String)).Nodup from .nil) _
    exact Fields.get?_setAll_of_mem (hpaths.sublist (Document.keys_shown_sublist _ _)) hshown
  lead name hname := by
    refine Fields.get?_setAll_of_not_mem fun hmem => ?_
    obtain ⟨e, he, heq⟩ := List.mem_map.mp ((Document.keys_shown_sublist _ _).subset hmem)
    obtain ⟨a, ha, hsame⟩ := List.mem_map.mp (mem_aggregatePaths he).2
    obtain ⟨c, hc, f, hf, rfl⟩ := exists_column_of_mem_accumulators haccs ha
    exact hname c hc f hf (heq.symm.trans hsame.symm)

end

/-- A part that is not split any further has a row that is projected from its first document, in
which no field stands twice. -/
theorem exists_root_of_run [Host] {names : Naming} {columns : List Column} {key : Value}
    {projection lead row : Document} {rest : List Document} {source : Pipeline.Source}
    (haccs : accumulators names columns = .ok accs)
    (halone : Group.split (Group.sameKey key) (lead :: rest) = [lead :: rest])
    (h : Pipeline.run source (lead :: rest) (rowStages key accs projection) = .ok [row]) :
    ∃ root, Overlays columns (Fields.setAll [] lead) (lead :: rest) root ∧
      root.project projection = .ok row := by
  obtain ⟨fields, hfields, -, hrow⟩ :=
    (Pipeline.run_rowStages_eq_ok (get?_groupSpec_identity haccs)).mp h
  rw [halone, List.forall₂_cons, and_iff_left .nil] at hrow
  obtain ⟨root, hroot, hproject⟩ := hrow
  have hundollared : ∀ e ∈ accs, e.1.toList.head? ≠ some '$' := by
    intro e he
    obtain ⟨c, -, f, -, rfl⟩ := exists_column_of_mem_accumulators haccs he
    exact undollared_aggregatedName f c.name
  rw [evaluate_overlay hundollared (get?_summary_record hfields lead rest)] at hroot
  obtain rfl := Value.document.inj (Option.some.inj (Except.ok.inj hroot))
  exact ⟨_, overlays_shown haccs hfields (Fields.setAll [] lead) (lead :: rest), hproject⟩

theorem exists_root_of_mem_split [Host] {names : Naming} {columns : List Column} {key : Value}
    {projection row : Document} {docs part : List Document} {source : Pipeline.Source}
    (haccs : accumulators names columns = .ok accs)
    (hpart : part ∈ Group.split (Group.sameKey key) docs)
    (h : Pipeline.run source part (rowStages key accs projection) = .ok [row]) :
    ∃ lead root, Overlays columns lead part root ∧ root.project projection = .ok row := by
  obtain ⟨lead, rest, rfl⟩ := List.exists_cons_of_ne_nil (Group.ne_nil_of_mem_split hpart)
  exact ⟨_, exists_root_of_run haccs (Group.split_of_mem hpart) h⟩

theorem exists_overlays_of_run [Host] {names : Naming} {columns : List Column} {key : Value}
    {projection lead row : Document} {rest : List Document} {source : Pipeline.Source}
    (haccs : accumulators names columns = .ok accs) (hlead : (Fields.keys lead).Nodup)
    (halone : Group.split (Group.sameKey key) (lead :: rest) = [lead :: rest])
    (h : Pipeline.run source (lead :: rest) (rowStages key accs projection) = .ok [row]) :
    ∃ root, Overlays columns lead (lead :: rest) root ∧ root.project projection = .ok row := by
  have hwhole : Fields.setAll [] lead = lead := by
    rw [Fields.setAll_eq_append hlead fun _ _ => List.not_mem_nil, List.nil_append]
  have hroot := exists_root_of_run haccs halone h
  rwa [hwhole] at hroot

end Plan

end SqlGateway
