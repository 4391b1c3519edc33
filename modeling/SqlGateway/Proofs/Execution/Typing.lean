import SqlGateway.Proofs.Execution.Probing
import SqlGateway.Proofs.Execution.Ready

/-! The types that are found for the columns of the only document of a collection are those of its
own values: every field is asked for under a key of its own, and the answer names all of them. -/

namespace SqlGateway

/-- Whether a name is that of a stored column: a field as it stands, which no aggregate is found
under. -/
structure ColumnName (name : String) : Prop extends PlainName name where
  unaggregated : ∀ f ∈ Aggregation.all, ¬(f.name ++ "_").toList <+: name.toList

instance (name : String) : Decidable (ColumnName name) :=
  decidable_of_iff (PlainName name ∧ ∀ f ∈ Aggregation.all, ¬(f.name ++ "_").toList <+: name.toList)
    ⟨fun h => ⟨h.1, h.2⟩, fun h => ⟨h.toPlainName, h.unaggregated⟩⟩

theorem stripAggregation_of_columnName {name : String} (h : ColumnName name) :
    stripAggregation name = name := by
  rw [stripAggregation, List.findSome?_eq_none_iff.mpr]
  intro f hf
  have hbegins : (f.name ++ "_").toList.isPrefixOf name.toList = false := by
    rw [← Bool.not_eq_true, List.isPrefixOf_iff_prefix]
    exact h.unaggregated f hf
  dsimp only
  rw [hbegins, Bool.false_and, if_neg (by decide)]

namespace Typing

open Execution

/-! ### Columns of a document -/

/-- Whether the fields of a document, but for its identifier, are columns. -/
structure Columns (fields : Document) : Prop where
  distinct : (Fields.keys fields).Nodup
  name : ∀ e ∈ fields, ColumnName e.1

/-- The types of the values of a document. -/
def ownTypes (fields : Document) : TypeMap := fields.map fun e => (e.1, .ofValue e.2)

/-- The columns of a document that is no join. -/
def ownColumns (fields : Document) : List ProbeColumn := fields.map fun e => ⟨e.1, e.1, false⟩

/-- The answer to a probe of the fields of a document. -/
def answer (fields : Document) : Document :=
  fields.map fun e => (probeKey e.1, .string (TypeTag.ofValue e.2).name)

namespace Columns

variable {fields : Document} (h : Columns fields)

include h

theorem unidentified : "_id" ∉ Fields.keys fields := by
  intro hmem
  obtain ⟨e, he, hid⟩ := List.mem_map.mp hmem
  exact (h.name e he).ordinary hid

theorem type {e : String × Value} (he : e ∈ fields) :
    (ownTypes fields).get? e.1 = some (.ofValue e.2) := by
  have hdistinct : (Fields.keys (ownTypes fields)).Nodup := by
    rw [Fields.keys, ownTypes, List.map_map]
    exact h.distinct
  exact Fields.get?_of_mem hdistinct (List.mem_map.mpr ⟨e, he, rfl⟩)

theorem documentColumns : documentColumns none fields = ownColumns fields := by
  have hname := h.name
  clear h
  induction fields with
  | nil => rfl
  | cons e fields ih =>
    obtain ⟨key, v⟩ := e
    obtain ⟨hkey, hname⟩ := List.forall_mem_cons.mp hname
    have hcolumn : Typing.documentColumns none [(key, v)] = [⟨key, key, false⟩] := by
      have hid : key ≠ idField := hkey.ordinary
      have hstrip : stripAggregation key = key := stripAggregation_of_columnName hkey
      rw [Typing.documentColumns, List.flatMap_singleton]
      dsimp only
      rw [if_neg hid, hstrip]
      split
      · rw [if_neg (Option.some_ne_none _).symm]
      · rfl
    have hsplit : Typing.documentColumns none ([(key, v)] ++ fields) =
        Typing.documentColumns none [(key, v)] ++ Typing.documentColumns none fields :=
      List.flatMap_append
    rw [List.cons_append, List.nil_append] at hsplit
    rw [hsplit, hcolumn, ih hname]
    rfl

theorem columnKeys_nodup : ((ownColumns fields).map (·.key)).Nodup := by
  rw [ownColumns, List.map_map]
  exact h.distinct

theorem probedColumns (collection : String) :
    probedColumns ⟨collection, [], none⟩ fields = ownColumns fields := by
  have hseen (cs : List ProbeColumn) (c : ProbeColumn) (hc : c.key ∉ cs.map (·.key)) :
      cs.any (·.key == c.key) = false := by
    rw [List.any_eq_false]
    intro c' hc' hkey
    exact hc (List.mem_map.mpr ⟨c', hc', by simpa using hkey⟩)
  rw [Typing.probedColumns]
  change (Typing.documentColumns none fields).foldl _ [] = _
  rw [h.documentColumns]
  exact foldl_fresh hseen [] h.columnKeys_nodup

theorem sources : withoutRepeats ((ownColumns fields).map (·.source)) = Fields.keys fields := by
  rw [ownColumns, List.map_map]
  exact withoutRepeats_of_nodup h.distinct

theorem probeKeys_nodup : (fields.map fun e => probeKey e.1).Nodup := by
  have hdistinct := List.pairwise_map.mp h.distinct
  refine List.pairwise_map.mpr (hdistinct.imp_of_mem fun ha hb hne heq => hne ?_)
  exact probeKey_injective (h.name _ ha).dotless (h.name _ hb).dotless heq

theorem questions : questions (Fields.keys fields) =
    fields.map fun e => (probeKey e.1, question e.1) := by
  rw [Typing.questions, Fields.keys, List.map_map]
  refine Fields.setAll_eq_append ?_ fun _ _ => List.not_mem_nil
  rw [Fields.keys, List.map_map]
  exact h.probeKeys_nodup

/-- The types that are asked for are those of the values. -/
theorem project {d : Document} (hd : ∀ e ∈ fields, d.get? e.1 = some e.2) (hfields : fields ≠ []) :
    d.project ((Typing.questions (Fields.keys fields)).set idField (.int 0)) =
      .ok (answer fields) := by
  have hvalue (e) (he : e ∈ fields) : Expression.evaluate d (question e.1) =
      .ok (some (.string (TypeTag.ofValue e.2).name)) := by
    refine evaluate_question.mpr ⟨some e.2, ?_, rfl⟩
    rw [Expression.evaluate_field (h.name e he).toPlainName, hd e he]
  rw [project_questions (by simpa [Fields.keys] using hfields), h.questions, List.map_map, answer]
  · refine congrArg Except.ok (List.map_congr_left fun e he => Prod.ext rfl ?_)
    dsimp only [Function.comp_apply]
    rw [answerOf, hvalue e he]
  · rw [h.questions, List.forall_mem_map]
    exact fun e he => ⟨_, hvalue e he⟩

theorem readProbe (collection : String) :
    readProbe collection (answer fields) [] (ownColumns fields) = .ok (ownTypes fields) := by
  -- every key of the answer is found, since no two columns are asked for under the same key
  have hanswer (e) (he : e ∈ fields) :
      Fields.get? (answer fields) (probeKey e.1) = some (.string (TypeTag.ofValue e.2).name) := by
    have hdistinct : (Fields.keys (answer fields)).Nodup := by
      rw [Fields.keys, answer, List.map_map]
      exact h.probeKeys_nodup
    exact Fields.get?_of_mem hdistinct (List.mem_map.mpr ⟨e, he, rfl⟩)
  rw [readProbe_eq h.columnKeys_nodup, ownColumns, List.map_map, ownTypes]
  · refine congrArg Except.ok (List.map_congr_left fun e he => Prod.ext rfl ?_)
    dsimp only [Function.comp_apply]
    rw [typeIn, hanswer e he]
    exact TypeTag.ofName_name_ofValue e.2
  · rw [ownColumns, List.forall_mem_map]
    exact fun e he => ⟨_, hanswer e he⟩

/-- The types of the only document of a collection are found. -/
theorem leads_infer [Host] {dbs : Databases} {key : Option Int} {E : Run MemoryStore → Prop}
    {database collection : String} {d : Document} (hd : ∀ e ∈ fields, d.get? e.1 = some e.2)
    (hdocs : dbs.documents database collection = [d]) :
    Leads (Ready dbs key) (infer (fetch MemoryStore.store database) ⟨collection, [], none⟩ fields)
      (fun types r => types = ownTypes fields ∧ Ready dbs key r) E := by
  have hown (c) (hc : c ∈ ownColumns fields) : c.joined = false := by
    obtain ⟨e, -, rfl⟩ := List.mem_map.mp hc
    rfl
  have hbase : (ownColumns fields).partition (·.joined) = ([], ownColumns fields) := by
    rw [List.partition_eq_filter_filter, List.filter_eq_nil_iff.mpr, List.filter_eq_self.mpr]
    · exact fun c hc => congrArg not (hown c hc)
    · exact fun c hc => by rw [hown c hc]; decide
  have hcollection : Leads (Ready dbs key)
      (ofCollection (fetch MemoryStore.store database) collection false [] (ownColumns fields))
      (fun types r => types = ownTypes fields ∧ Ready dbs key r) E := by
    -- without columns nothing is asked for: a projection of no fields would keep them all
    by_cases hfields : fields = []
    · subst hfields
      exact .pure fun r hr => ⟨rfl, hr⟩
    · have hcolumns : (ownColumns fields).isEmpty = false := by
        simpa [ownColumns] using hfields
      rw [ofCollection, if_neg (by rw [hcolumns]; decide), h.sources]
      have hprobe := retrieve_probe hdocs (Fields.keys fields)
      rw [h.project hd hfields] at hprobe
      refine .bind (leads_fetch ⟨_, _, rfl⟩ rfl hprobe (Nat.le_refl 1)) fun docs => ?_
      rintro r ⟨rfl, hr⟩
      dsimp only
      rw [h.readProbe]
      exact ⟨_, r, rfl, rfl, hr⟩
  rw [infer, h.probedColumns, hbase]
  refine .bind hcollection fun types => ?_
  exact .pure fun r hr => hr

end Columns

end Typing

end SqlGateway
