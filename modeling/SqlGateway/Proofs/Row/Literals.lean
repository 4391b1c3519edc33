import SqlGateway.Proofs.Calendar.Instant
import SqlGateway.Proofs.Calendar.Literal
import SqlGateway.Proofs.Number.Decimal128
import SqlGateway.Proofs.Number.Word
import SqlGateway.Query.Literal
import SqlGateway.Row.Decoding

/-! The cells that literals are read back as, from the values that are stored for them under the
types of these values. -/

namespace SqlGateway

theorem Value.isAbsent_string {s : String} (h : s ≠ "NULL") : (Value.string s).isAbsent = false :=
  beq_eq_false_iff_ne.mpr h

namespace Cell

/-- The cell of a text: absent, a time of day, or the text itself. -/
def ofText (s : String) : Cell :=
  if s = "NULL" then .null
  else match TimeOfDay.ofLiteral? s with
  | some t => .time t
  | none => .string s

theorem decode_string [Host] (column s : String) :
    decode column .string (.string s) = .ok (ofText s) := by
  rw [decode, ofText]
  by_cases h : s = "NULL"
  · rw [h]
    rfl
  · rw [Value.isAbsent_string h, if_neg h, if_neg (by decide)]
    dsimp only [TypeTag.ofValue, TypeTag.reconcile]
    cases TimeOfDay.ofLiteral? s <;> rfl

theorem ofText_text {t : TimeOfDay} (h : t.nano < 1000000000) : ofText t.text = .time t := by
  have hread := TimeOfDay.ofLiteral?_text h
  have hpresent : t.text ≠ "NULL" := by
    intro heq
    rw [heq, TimeOfDay.ofLiteral?_eq_none rfl] at hread
    cases hread
  rw [ofText, if_neg hpresent, hread]

theorem decode_date [Host] (column : String) {millis : Int64} {t : DateTime}
    (h : DateTime.ofMillis? millis.toInt = some t) :
    decode column .date (.date millis) = .ok (.datetime t) := by
  have hpresent : (Value.date millis).isAbsent = false := rfl
  rw [decode, hpresent, if_neg (by decide)]
  dsimp only [TypeTag.ofValue, TypeTag.reconcile]
  rw [h]
  rfl

theorem decode_decimal [Host] (column : String) (d : Decimal) :
    decode column .decimal (.decimal (.ofDecimal d)) = .ok (.decimal d) := by
  have hpresent : (Value.decimal (.ofDecimal d)).isAbsent = false := rfl
  rw [decode, hpresent, if_neg (by decide)]
  dsimp only [TypeTag.ofValue, TypeTag.reconcile]
  rw [Decimal128.toDecimal?_ofDecimal]

theorem decode_float [Host] (column : String) (x : Float) :
    decode column .double (.ofFloat x) = .ok (.double x) := by
  change Except.ok (Cell.double (Double.ofFloat x).toFloat) = _
  rw [Double.toFloat_ofFloat]

end Cell

namespace Literal

/-- Whether a literal is read back: lists have no cell, a leap second is not kept, and the dates of
an instant must be in range. -/
def Kept [Host] : Literal → Prop
  | .localDateTime t => t.time.nano < 1000000000 ∧ t.inRange = true
  | .localDate d => DateTime.inRange ⟨d, .midnight⟩ = true
  | .localTime t => t.nano < 1000000000
  | .list _ => False
  | _ => True

instance [Host] (l : Literal) : Decidable l.Kept :=
  match l with
  | .localDateTime _ => inferInstanceAs (Decidable (_ ∧ _))
  | .localDate _ => inferInstanceAs (Decidable (_ = true))
  | .localTime _ => inferInstanceAs (Decidable (_ < _))
  | .list _ => isFalse id
  | .null | .string _ | .bool _ | .sbyte _ | .short _ | .integer _ | .long _ | .byte _ | .ushort _
  | .uinteger _ | .ulong _ | .float _ | .double _ | .decimal _ => isTrue trivial

/-- The cell that a literal is read back as: a number of the width it is stored in, a date as its
midnight, and a date-time down to the millisecond; what the clocks skip, as what they show in its
place. -/
def cell [Host] : Literal → Cell
  | .null => .null
  | .string s => .ofText s
  | .bool b => .bool b
  | .sbyte n => .int (Int32.ofInt n.toInt)
  | .short n => .int (Int32.ofInt n.toInt)
  | .integer n => .int n
  | .byte n => .int (Int32.ofInt n.toNat)
  | .ushort n => .int (Int32.ofInt n.toNat)
  | .long n => .long n
  | .uinteger n => .long (Int64.ofInt n.toNat)
  | .ulong n =>
    if n.toNat ≤ Int64.maxValue.toInt then .long (Int64.ofInt n.toNat) else .decimal (.ofUInt64 n)
  | .float x => .double x.toFloat
  | .double x => .double x.toFloat
  | .decimal d => .decimal d
  | .localDateTime t => .datetime t.shown.toMillisecond
  | .localDate d => .datetime (DateTime.shown ⟨d, .midnight⟩).toMillisecond
  | .localTime t => .time t
  | .list _ => .null

/-- A literal is read back under the type of its stored value. -/
theorem decode_toValue [Host] (column : String) {l : Literal} (h : l.Kept) :
    Cell.decode column (.ofValue l.toValue) l.toValue = .ok l.cell := by
  cases l with
  | string s => exact Cell.decode_string column s
  | sbyte n =>
    rw [cell, ← Int8.toInt_toInt32, Int32.ofInt_toInt]
    rfl
  | short n =>
    rw [cell, ← Int16.toInt_toInt32, Int32.ofInt_toInt]
    rfl
  | ulong n =>
    rw [toValue, cell]
    split
    · rfl
    · exact Cell.decode_decimal column _
  | float x => exact Cell.decode_float column _
  | decimal d => exact Cell.decode_decimal column d
  | localDateTime t => exact Cell.decode_date column (DateTime.ofMillis?_toMillis h.1 h.2)
  | localDate d =>
    exact Cell.decode_date column
      (DateTime.ofMillis?_toMillis (t := ⟨d, .midnight⟩) (Nat.zero_lt_succ _) h)
  | localTime t => exact (Cell.decode_string column _).trans (congrArg _ (Cell.ofText_text h))
  | list items => exact h.elim
  | _ => rfl

/-! ### Whole numbers -/

/-- The number of a whole-number literal. -/
def whole? : Literal → Option Int
  | .sbyte n => some n.toInt
  | .short n => some n.toInt
  | .integer n => some n.toInt
  | .long n => some n.toInt
  | .byte n => some n.toNat
  | .ushort n => some n.toNat
  | .uinteger n => some n.toNat
  | .ulong n => some n.toNat
  | _ => none

theorem integer?_int {n : Int} (h : -2 ^ 31 ≤ n ∧ n < 2 ^ 31) :
    (Cell.int (Int32.ofInt n)).integer? = some n :=
  congrArg some (Int32.toInt_ofInt_of_le h.1 h.2)

theorem integer?_long {n : Nat} (h : n < 2 ^ 63) :
    (Cell.long (Int64.ofInt n)).integer? = some (n : Int) :=
  congrArg some (Int64.toInt_ofInt_of_le (by omega) (by omega))

theorem mantissa_ofUInt64 (n : UInt64) :
    (Decimal.ofUInt64 n).mantissa = n.toNat ∧ (Decimal.ofUInt64 n).scale = 0 := by
  have hroom : Decimal.room = 2 ^ 96 := rfl
  have hn := n.toNat_lt
  rw [Decimal.ofUInt64, Decimal.ofParts?, dif_pos ⟨by omega, by decide⟩]
  exact ⟨rfl, rfl⟩

/-- A whole number keeps its value, as a decimal if it is past the range of a long. -/
theorem number_cell [Host] {l : Literal} {n : Int} (h : l.whole? = some n) :
    l.cell.integer? = some n ∨
      Int64.maxValue.toInt < n ∧ ∃ d, l.cell = .decimal d ∧ d.mantissa = n ∧ d.scale = 0 := by
  cases l with
  | sbyte k =>
    cases h
    have := k.le_toInt
    have := k.toInt_lt
    exact .inl (integer?_int (by omega))
  | short k =>
    cases h
    have := k.le_toInt
    have := k.toInt_lt
    exact .inl (integer?_int (by omega))
  | integer k => exact .inl h
  | long k => exact .inl h
  | byte k =>
    cases h
    have := k.toNat_lt
    exact .inl (integer?_int (by omega))
  | ushort k =>
    cases h
    have := k.toNat_lt
    exact .inl (integer?_int (by omega))
  | uinteger k =>
    cases h
    have := k.toNat_lt
    exact .inl (integer?_long (by omega))
  | ulong k =>
    cases h
    rw [cell]
    split
    · next hk => exact .inl (integer?_long (Int.ofNat_lt.mp (Int.lt_of_le_of_lt hk (by decide))))
    · next hk => exact .inr ⟨Int.not_le.mp hk, _, rfl, mantissa_ofUInt64 k⟩
  | _ => cases h

end Literal

end SqlGateway
