import SqlGateway.Proofs.Except
import SqlGateway.Proofs.Value.Fields
import SqlGateway.Row.Decoding

/-! The columns of a row. A document becomes a row with a column for every field but the identifier,
and it becomes none if such a field holds a document that no join has put there. -/

namespace SqlGateway

variable [Host]

/-- No type reads a document. -/
theorem Cell.decode_document {column : String} {nominal : TypeTag} {inner : Document}
    {cell : Cell} :
    Cell.decode column nominal (.document inner) ≠ .ok cell := by
  rw [Cell.decode, if_neg nofun]
  dsimp only
  split <;> first | contradiction | exact nofun

/-- A text that is not absent and does not show a time is read as it is. -/
theorem Cell.decode_text (column : String) {nominal : TypeTag} {s : String}
    (hpresent : (Value.string s).isAbsent = false) (htime : TimeOfDay.ofClockText? s = none) :
    Cell.decode column nominal (.string s) = .ok (.string s) := by
  have htype : nominal.reconcile .string = .string := by cases nominal <;> rfl
  rw [Cell.decode, hpresent, if_neg (by decide), TypeTag.ofValue, htype]
  dsimp only
  rw [TimeOfDay.ofLiteral?_eq_none htime]

/-- A whole number of 32 bits as it is read under a type. -/
def Cell.ofInt32 (type : TypeTag) (n : Int32) : Cell :=
  match type with
  | .double => .double (doubleOfInt n.toInt)
  | .decimal => .decimal (.ofInt64 n.toInt64)
  | _ => .int n

/-- Such a number is widened under two types and keeps its own under all others. -/
theorem Cell.decode_int (column : String) (type : TypeTag) (n : Int32) :
    Cell.decode column type (.int n) = .ok (.ofInt32 type n) := by
  cases type <;> rfl

namespace Row

variable {types : TypeMap} {outer d : Document} {before after row : Row}

/-- Without a join every field but the identifier is read into a column of its name. -/
theorem addField_none (key : String) (v : Value) :
    addField types none outer before key v =
      if key = idField then .ok before
      else (cellOf types key v).map (before.set key) := by
  cases v <;> rfl

theorem addField_eq_ok {key : String} {v : Value} (hid : key ≠ idField)
    (h : addField types none outer before key v = .ok after) :
    ∃ cell, cellOf types key v = .ok cell ∧ before.set key cell = after := by
  rw [addField_none, if_neg hid] at h
  exact Except.map_eq_ok.mp h

theorem mem_keys_foldlM {fields : Document}
    (h : fields.foldlM (fun r (key, v) => addField types none outer r key v) before = .ok after)
    {column : String} :
    column ∈ after.keys ↔
      column ∈ before.keys ∨ column ≠ idField ∧ column ∈ Fields.keys fields := by
  induction fields generalizing before with
  | nil =>
    cases h
    simp [Fields.keys]
  | cons e fields ih =>
    obtain ⟨key, v⟩ := e
    rw [List.foldlM_cons] at h
    obtain ⟨next, hnext, h⟩ := Except.bind_eq_ok.mp h
    have hkeys : Fields.keys ((key, v) :: fields) = key :: Fields.keys fields := rfl
    rw [ih h, hkeys, List.mem_cons]
    by_cases hid : key = idField
    · obtain rfl : before = next := by
        change addField types none outer before key v = .ok next at hnext
        rw [addField_none, if_pos hid] at hnext
        exact Except.ok.inj hnext
      grind
    · obtain ⟨cell, -, rfl⟩ := addField_eq_ok hid hnext
      have hset : column ∈ (before.set key cell).keys ↔ column ∈ before.keys ∨ column = key := by
        rw [Fields.keys_set]
        split <;> grind
      rw [hset]
      grind

/-- A field that is named once is read into its column. -/
theorem get?_foldlM {fields : Document} (hdistinct : (Fields.keys fields).Nodup)
    (h : fields.foldlM (fun r (key, v) => addField types none outer r key v) before = .ok after)
    {e : String × Value} (he : e ∈ fields) (hid : e.1 ≠ idField) :
    ∃ cell, cellOf types e.1 e.2 = .ok cell ∧ after.get? e.1 = some cell := by
  induction fields generalizing before with
  | nil => cases he
  | cons first fields ih =>
    obtain ⟨hfirst, hdistinct⟩ := List.nodup_cons.mp hdistinct
    rw [List.foldlM_cons] at h
    obtain ⟨next, hnext, h⟩ := Except.bind_eq_ok.mp h
    rcases List.mem_cons.mp he with rfl | he
    · obtain ⟨cell, hcell, rfl⟩ := addField_eq_ok hid hnext
      refine ⟨cell, hcell, ?_⟩
      have hkept : after.get? e.1 = (before.set e.1 cell).get? e.1 := by
        refine Except.foldlM_keeps (·.get? e.1) (fun other hother r r' hstep => ?_) h
        have hne : e.1 ≠ other.1 := fun heq =>
          hfirst (List.mem_map.mpr ⟨other, hother, heq.symm⟩)
        change addField types none outer r other.1 other.2 = .ok r' at hstep
        rw [addField_none] at hstep
        split at hstep
        · cases hstep
          rfl
        · obtain ⟨w, -, rfl⟩ := Except.map_eq_ok.mp hstep
          exact (Fields.get?_set _ _ _ _).trans (if_neg hne)
      rw [hkept, Fields.get?_set, if_pos rfl]
    · exact ih hdistinct h he

variable (h : ofDocument types none d = .ok row)

include h

theorem mem_keys_ofDocument {column : String} :
    column ∈ row.keys ↔ column ≠ idField ∧ column ∈ Fields.keys d := by
  rw [mem_keys_foldlM h]
  simp [Fields.keys]

theorem get?_ofDocument (hdistinct : (Fields.keys d).Nodup) {column : String}
    (hid : column ≠ idField) {v : Value} (hv : d.get? column = some v) :
    ∃ cell, cellOf types column v = .ok cell ∧ row.get? column = some cell :=
  get?_foldlM hdistinct h (Fields.mem_of_get? hv) hid

/-- What has become a row holds no document beside its identifier. -/
theorem scalar_of_ofDocument {e : String × Value} (he : e ∈ d) (hid : e.1 ≠ idField)
    (inner : Document) : e.2 ≠ .document inner := by
  intro hinner
  obtain ⟨r, r', hstep⟩ := Except.exists_step_of_foldlM h e he
  obtain ⟨cell, hcell, -⟩ := addField_eq_ok hid hstep
  rw [hinner] at hcell
  exact Cell.decode_document hcell

end Row

end SqlGateway
