import Mathlib.Algebra.Order.Field.Rat
import Mathlib.Order.Compare
import Mathlib.Tactic.FieldSimp
import SqlGateway.Proofs.Filter.Lowering
import SqlGateway.Proofs.Row.Literals
import SqlGateway.Proofs.Value.Path
import SqlGateway.Proofs.Value.Preorder

/-! Comparisons of a column with a number. The literals of whole numbers and of
decimals are stored as ints, as longs or as decimals, each without loss, so that
a comparison says of a stored literal what it says of the rational numbers. -/

namespace SqlGateway

attribute [local instance] Host.universal

/-! ### Stored numbers -/

/-- The rational number that a decimal is. -/
def Decimal.rational (d : Decimal) : ℚ := d.mantissa / 10 ^ d.scale

theorem Decimal.units_eq_rational (d : Decimal) :
    (d.units : ℚ) = d.rational * 10 ^ maxScale := by
  have hscale : (10 : ℚ) ^ maxScale = 10 ^ d.scale * 10 ^ (maxScale - d.scale) := by
    rw [← pow_add, Nat.add_sub_cancel' (show d.scale ≤ maxScale from d.scale_le)]
  have hpos : (10 : ℚ) ^ d.scale ≠ 0 := pow_ne_zero _ (by decide)
  rw [units, rational, hscale]
  push_cast
  field_simp

namespace Value

/-- Whether a value is stored for a rational number: as an exact number of that value. -/
def Stores (v : Value) (x : ℚ) : Prop :=
  ∃ n, Number.ofValue? v = some n ∧ n.isExact = true ∧
    (n.units : ℚ) = x * 10 ^ Decimal.maxScale

theorem stores_whole {v : Value} {n : Int64} {k : Int}
    (hv : Number.ofValue? v = some (.whole n)) (hk : n.toInt = k) : Stores v k := by
  refine ⟨.whole n, hv, rfl, ?_⟩
  rw [Number.units, hk]
  push_cast
  rfl

theorem stores_int {k : Int} (h : -2 ^ 31 ≤ k ∧ k < 2 ^ 31) : Stores (.ofInt32 k) k :=
  stores_whole rfl ((Int32.toInt_toInt64 _).trans (Int32.toInt_ofInt_of_le h.1 h.2))

theorem stores_long {k : Int} (h : -2 ^ 63 ≤ k ∧ k < 2 ^ 63) : Stores (.ofInt64 k) k :=
  stores_whole rfl (Int64.toInt_ofInt_of_le h.1 h.2)

theorem stores_decimal (d : Decimal) : Stores (.decimal (.ofDecimal d)) d.rational :=
  ⟨.exact d, by rw [Number.ofValue?, Decimal128.toDecimal?_ofDecimal]; rfl, rfl,
    d.units_eq_rational⟩

variable {v w : Value} {x y : ℚ}

theorem classRank_of_stores (h : Stores v x) : v.classRank = 2 := by
  obtain ⟨n, hn, -⟩ := h
  cases v <;> first | rfl | cases hn

/-- Stored numbers are ordered as the rational numbers are. -/
theorem compares_order (hv : Stores v x) (hw : Stores w y) : (v.order w).Compares x y := by
  have hvrank := classRank_of_stores hv
  have hwrank := classRank_of_stores hw
  obtain ⟨m, hm, hmexact, hx⟩ := hv
  obtain ⟨n, hn, hnexact, hy⟩ := hw
  have horder : v.order w = compare m.units n.units := by
    rw [order_eq_within, hvrank, hwrank,
      within_of_classRank (by rw [hvrank]; decide), orderScalars_of_number hm hn,
      Number.order_eq_units hmexact hnexact]
    rfl
  have hpos : (0 : ℚ) < 10 ^ Decimal.maxScale := pow_pos (by decide) _
  rw [horder]
  cases hcompare : compare m.units n.units with
  | lt =>
    have hlt := Int.cast_lt (R := ℚ).mpr (compare_lt_iff_lt.mp hcompare)
    rw [hx, hy] at hlt
    exact lt_of_mul_lt_mul_right hlt hpos.le
  | eq =>
    have heq := congrArg (Int.cast (R := ℚ)) (compare_eq_iff_eq.mp hcompare)
    rw [hx, hy] at heq
    exact mul_right_cancel₀ hpos.ne' heq
  | gt =>
    have hgt := Int.cast_lt (R := ℚ).mpr (compare_gt_iff_gt.mp hcompare)
    rw [hx, hy] at hgt
    exact lt_of_mul_lt_mul_right hgt hpos.le

theorem candidates_of_stores (h : Stores v x) : v.candidates = [v] := by
  obtain ⟨n, hn, -⟩ := h
  cases v <;> first | rfl | cases hn

theorem fieldEquals_of_stores [Host] (hv : Stores v x) (hw : Stores w y) :
    fieldEquals (some v) w = (v.order w == .eq) := by
  have hequals : candidateEquals w v = v.equal w := by
    obtain ⟨n, hn, -⟩ := hw
    cases w <;> first | rfl | cases hn
  rw [fieldEquals, candidates_of_stores hv, List.any_cons, List.any_nil, Bool.or_false, hequals]
  rfl

theorem fieldOrdered_of_stores (hv : Stores v x) (hw : Stores w y) (accept : Ordering → Bool) :
    fieldOrdered (some v) w accept = accept (v.order w) := by
  have hclass : v.sameClass w = true := by
    rw [sameClass, classRank_of_stores hv, classRank_of_stores hw]
    rfl
  rw [fieldOrdered, candidates_of_stores hv, List.filter_cons_of_pos (by exact hclass),
    List.filter_nil, List.any_cons, List.any_nil, Bool.or_false]

end Value

/-! ### Numbers of literals -/

namespace Literal

/-- The rational number that a whole-number or decimal literal stands for. -/
def rational? : Literal → Option ℚ
  | .decimal d => some d.rational
  | l => l.whole?.map fun n => (n : ℚ)

theorem rational_ofUInt64 (n : UInt64) : (Decimal.ofUInt64 n).rational = (n.toNat : Int) := by
  obtain ⟨hmantissa, hscale⟩ := mantissa_ofUInt64 n
  rw [Decimal.rational, hmantissa, hscale, pow_zero, div_one]

/-- A number is stored without loss, whatever it is stored as. -/
theorem stores_toValue [Host] {l : Literal} {x : ℚ} (h : l.rational? = some x) : l.toValue.Stores x := by
  cases l with
  | sbyte n =>
    cases h
    exact Value.stores_whole rfl ((Int32.toInt_toInt64 _).trans (Int8.toInt_toInt32 n))
  | short n =>
    cases h
    exact Value.stores_whole rfl ((Int32.toInt_toInt64 _).trans (Int16.toInt_toInt32 n))
  | integer n =>
    cases h
    exact Value.stores_whole rfl (Int32.toInt_toInt64 n)
  | long n =>
    cases h
    exact Value.stores_whole rfl rfl
  | byte n =>
    cases h
    have := n.toNat_lt
    exact Value.stores_int (by omega)
  | ushort n =>
    cases h
    have := n.toNat_lt
    exact Value.stores_int (by omega)
  | uinteger n =>
    cases h
    have := n.toNat_lt
    exact Value.stores_long (by omega)
  | ulong n =>
    cases h
    rw [toValue]
    split
    · next hn => exact Value.stores_long ⟨by omega, Int.lt_of_le_of_lt hn (by decide)⟩
    · rw [← rational_ofUInt64]
      exact Value.stores_decimal _
  | decimal d =>
    cases h
    exact Value.stores_decimal d
  | _ => cases h

end Literal

/-! ### Comparisons of a column -/

/-- The relation of numbers that a comparison stands for. -/
def Comparison.relation? : Comparison → Option (ℚ → ℚ → Prop)
  | .eq => some (· = ·)
  | .ne => some (· ≠ ·)
  | .lt => some (· < ·)
  | .lte => some (· ≤ ·)
  | .gt => some (· > ·)
  | .gte => some (· ≥ ·)
  | _ => none

namespace Predicate

/-- What a comparison says of a stored number. -/
theorem operatorsMatch_of_relation? [Host] {op : Comparison} {R : ℚ → ℚ → Prop}
    (hop : op.relation? = some R) {v : Value} {b : Literal} {x y : ℚ} (hv : v.Stores x)
    (hb : b.toValue.Stores y) (column : Column) :
    ∃ ops, (Predicate.on column op b).operator = .ok ops ∧ Filter.IsOperators ops ∧
      ∃ holds, operatorsMatch (some v) "" ops = .ok holds ∧ (holds = true ↔ R x y) := by
  have horder := Value.compares_order hv hb
  have hequals := Value.fieldEquals_of_stores hv hb
  have hordered := Value.fieldOrdered_of_stores hv hb
  have hsingle {name : String} {holds : Bool} (hname : isOperator name = true)
      (hoptions : name ≠ "$options")
      (hverdict : operatorsMatch (some v) "" [(name, b.toValue)] = .ok holds)
      (hiff : holds = true ↔ R x y) :
      Filter.IsOperators [(name, b.toValue)] ∧
        ∃ holds, operatorsMatch (some v) "" [(name, b.toValue)] = .ok holds ∧
          (holds = true ↔ R x y) :=
    ⟨isOperators_singleton _ hname hoptions, holds, hverdict, hiff⟩
  cases op with
  | eq =>
    cases hop
    refine ⟨_, rfl, hsingle (by decide) (by decide) (Verdict.and_true (.ok _)) ?_⟩
    rw [hequals, beq_iff_eq]
    exact horder.eq_eq
  | ne =>
    cases hop
    refine ⟨_, rfl, hsingle (by decide) (by decide) (Verdict.and_true (.ok _)) ?_⟩
    rw [hequals, Bool.not_eq_true', beq_eq_false_iff_ne]
    exact not_congr horder.eq_eq
  | lt =>
    cases hop
    refine ⟨_, rfl, hsingle (by decide) (by decide) (Verdict.and_true (.ok _)) ?_⟩
    rw [hordered, beq_iff_eq]
    exact horder.eq_lt
  | lte =>
    cases hop
    refine ⟨_, rfl, hsingle (by decide) (by decide) (Verdict.and_true (.ok _)) ?_⟩
    rw [hordered, bne_iff_ne]
    exact horder.ne_gt
  | gt =>
    cases hop
    refine ⟨_, rfl, hsingle (by decide) (by decide) (Verdict.and_true (.ok _)) ?_⟩
    rw [hordered, beq_iff_eq]
    exact horder.eq_gt
  | gte =>
    cases hop
    refine ⟨_, rfl, hsingle (by decide) (by decide) (Verdict.and_true (.ok _)) ?_⟩
    rw [hordered, bne_iff_ne]
    exact horder.ne_lt
  | _ => cases hop

/-- A comparison of a column with a number matches a stored number exactly if it holds between the
rational numbers. -/
theorem matches_number_iff [Host] {a b : Literal} {x y : ℚ} (ha : a.rational? = some x)
    (hb : b.rational? = some y) {op : Comparison} {R : ℚ → ℚ → Prop} (hop : op.relation? = some R)
    (names : Naming) {column : String} (hdotless : '.' ∉ column.toList)
    (hcolumn : isOperator column = false) :
    ∃ filter, Filter.ofPredicates? names [.on (.named column) op b] = .ok (some filter) ∧
      ∃ holds, Document.matches [(column, a.toValue)] filter = .ok holds ∧
        (holds = true ↔ R x y) := by
  obtain ⟨ops, hops, hoperators, holds, hholds, hiff⟩ :=
    operatorsMatch_of_relation? hop (Literal.stores_toValue ha) (Literal.stores_toValue hb)
      (.named column)
  have hcondition : (Predicate.on (.named column) op b).condition names = .ok ⟨column, ops⟩ := by
    rw [condition, hops]
    rfl
  have hitems : FilterItem.ofPredicates names [.on (.named column) op b] =
      .ok [⟨.and, .single ⟨column, ops⟩⟩] := by
    rw [FilterItem.ofPredicates, List.find?_cons_of_neg (by simp [on]),
      List.find?_nil, FilterItem.ofRest, hcondition]
    rfl
  refine ⟨[(column, .document ops)], ?_, holds, ?_, hiff⟩
  · rw [Filter.ofPredicates?, hitems]
    rfl
  · have hget : Document.getPath? [(column, a.toValue)] column = some a.toValue := by
      rw [Document.getPath?_of_dotless hdotless, Fields.get?_cons, if_pos rfl]
    rw [Document.matches, satisfies_cons, satisfiesEntry_document hcolumn,
      hoperators.fieldMatches_eq, hget, hholds]
    exact Verdict.and_true _

/-- The greatest `ulong`, which is stored as a decimal, is greater than itself less a tenth. -/
theorem matches_number_iff_ulong :
    ∃ filter, Filter.ofPredicates? .plain
        [.on (.named "n") .gt (.decimal ⟨184467440737095516149, 1, by decide, by decide⟩)] =
          .ok (some filter) ∧
      ∃ holds, Document.matches [("n", (Literal.ulong 18446744073709551615).toValue)] filter =
          .ok holds ∧
        (holds = true ↔ ((18446744073709551615 : Int) : ℚ) > (184467440737095516149 : Int) / 10 ^ 1) :=
  matches_number_iff rfl rfl rfl .plain (by decide) (by decide)

end Predicate

end SqlGateway
