import Mathlib.Data.List.Basic
import SqlGateway.Execution.NextKey
import SqlGateway.Execution.Typing
import SqlGateway.Proofs.Identifiers.Values

/-! Rows under a renaming of identifiers. No cell shows an identifier, and no type depends on which
one it is. -/

namespace SqlGateway

variable {f : ObjectId → ObjectId}

/-! ### Cells -/

theorem Value.isAbsent_rename (v : Value) : (v.rename f).isAbsent = v.isAbsent := by
  cases v <;> simp [Value.rename, isAbsent]

theorem Cell.decode_rename [Host] (column : String) (nominal : TypeTag) (v : Value) :
    decode column nominal (v.rename f) = decode column nominal v := by
  rw [decode, decode, Value.isAbsent_rename, Value.ofValue_rename]
  split
  · rfl
  · generalize nominal.reconcile (.ofValue v) = type
    cases v with
    | objectId id => cases type <;> rfl
    | codeWithScope s scope => cases type <;> rfl
    | array items => rw [Value.rename_array]; cases type <;> rfl
    | document fields => rw [Value.rename_document]; cases type <;> rfl
    | _ => rfl

namespace Row

variable [Host] (types : TypeMap)

theorem cellOf_rename (column : String) (v : Value) :
    cellOf types column (v.rename f) = cellOf types column v :=
  Cell.decode_rename column _ v

theorem addJoined_rename (field : String) (outer : Document) (r : Row) (fields : Document) :
    addJoined types field (outer.rename f) r (fields.rename f) =
      addJoined types field outer r fields := by
  induction fields generalizing r with
  | nil => rfl
  | cons e fields ih =>
    rw [Document.rename_cons, addJoined, addJoined]
    split
    · exact ih r
    · dsimp only
      rw [cellOf_rename, Document.has_rename]
      exact bind_congr fun cell => ih _

theorem addField_rename (joined : Option String) (outer : Document) (r : Row) (key : String)
    (v : Value) : addField types joined (outer.rename f) r key (v.rename f) =
      addField types joined outer r key v := by
  have hcell (v : Value) := cellOf_rename (f := f) types key v
  unfold addField
  split
  · rfl
  · cases v with
    | document fields =>
      rw [Value.rename_document]
      dsimp only
      split
      · exact addJoined_rename types key outer r fields
      · rw [← Value.rename_document, hcell]
    | array items =>
      rw [Value.rename_array]
      dsimp only
      rw [← Value.rename_array, hcell]
    | objectId id => exact congrArg (· >>= _) (hcell (.objectId id))
    | codeWithScope s scope => exact congrArg (· >>= _) (hcell (.codeWithScope s scope))
    | _ => rfl

theorem ofDocument_rename (joined : Option String) (d : Document) :
    ofDocument types joined (d.rename f) = ofDocument types joined d := by
  rw [ofDocument, ofDocument, Document.rename, List.foldlM_map]
  exact congrArg (List.foldlM · [] d)
    (funext₂ fun r e => addField_rename types joined d r e.1 e.2)

theorem ofDocuments_rename (joined : Option String) (docs : List Document) :
    ofDocuments types joined (docs.map (Document.rename f)) = ofDocuments types joined docs := by
  rw [ofDocuments, ofDocuments, List.mapM_map]
  exact congrArg (List.mapM · docs) (funext fun d => ofDocument_rename types joined d)

end Row

/-! ### Types -/

namespace Typing

theorem documentColumns_rename (joined : Option String) (d : Document) :
    documentColumns joined (d.rename f) = documentColumns joined d := by
  rw [documentColumns, documentColumns, Document.rename, List.flatMap_map]
  refine List.flatMap_congr fun e _ => ?_
  dsimp only
  split
  · rfl
  · cases e.2 with
    | document fields =>
      rw [Value.rename_document]
      dsimp only
      rw [Document.keys_rename]
    | array items => rw [Value.rename_array]
    | _ => rfl

theorem probedColumns_rename (t : ProbeTarget) (sample : Document) :
    probedColumns t (sample.rename f) = probedColumns t sample := by
  rw [probedColumns, probedColumns, documentColumns_rename]

theorem readProbe_rename (collection : String) (answer : Document) (types : TypeMap)
    (cs : List ProbeColumn) :
    readProbe collection (answer.rename f) types cs = readProbe collection answer types cs := by
  have hname (key : String) : ((Document.rename f answer).get? key).bind Value.string? =
      (answer.get? key).bind Value.string? := by
    rw [Document.get?_rename]
    cases answer.get? key with
    | none => rfl
    | some v => exact Value.string?_rename v
  rw [readProbe, readProbe]
  simp only [hname]

end Typing

/-! ### Keys -/

/-- The key after that of a sampled document is the same if there is no identifier in its place. -/
theorem NextKey.following_rename {column : String} {docs : List Document}
    (h : ∀ d ∈ docs.head?, ∀ v, d.get? column = some v → v.idFree = true) :
    following column (docs.map (Document.rename f)).head? = following column docs.head? := by
  cases docs with
  | nil => rfl
  | cons d docs =>
    have hvalue : (Document.rename f d).get? column = d.get? column := by
      rw [Document.get?_rename]
      cases hv : d.get? column with
      | none => rfl
      | some v => exact congrArg some (Value.rename_of_idFree v (h d rfl v hv))
    rw [List.map_cons, List.head?_cons, List.head?_cons, following, following, Option.bind_some,
      Option.bind_some, hvalue]

end SqlGateway
