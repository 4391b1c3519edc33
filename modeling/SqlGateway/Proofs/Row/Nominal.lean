import SqlGateway.Proofs.Filter.Numbers
import SqlGateway.Proofs.Row.Cells

/-! Values read under the type that another document has in their column. Only whole numbers are
affected: under the type of doubles or decimals they become such numbers, of the same value. All
other values are read under their own type, so that no document fails for the type of another. -/

namespace SqlGateway

attribute [local instance] Host.universal

namespace Value.Number

/-- The rational number that a finite double is. -/
def rational? (x : Float) : Option ℚ :=
  match x.toModel.unpack with
  | .zero _ => some 0
  | .finite .positive m e _ => some (m * 2 ^ e)
  | .finite .negative m e _ => some (-(m * 2 ^ e))
  | _ => none

theorem filled_mul {n : Nat} (hn : n < 2 ^ 53) :
    (filled n : ℚ) * 2 ^ ((n.log2 : Int) - 52) = n := by
  have hlog := log2_le hn
  have hexponent : ((52 - n.log2 : Nat) : Int) + ((n.log2 : Int) - 52) = 0 := by omega
  rw [filled, Nat.cast_mul, Nat.cast_pow, Nat.cast_ofNat, mul_assoc, ← zpow_natCast,
    ← zpow_add₀ two_ne_zero, hexponent, zpow_zero, mul_one]

/-- A whole number of 53 bits is held by its double without loss. -/
theorem rational?_doubleOfInt {n : Int} (hn : n.natAbs < 2 ^ 53) :
    rational? (doubleOfInt n) = some (n : ℚ) := by
  by_cases hzero : n = 0
  · subst hzero
    rfl
  rw [rational?, unpack_doubleOfInt hzero hn]
  by_cases hneg : n < 0
  · rw [if_pos hneg]
    refine congrArg some ?_
    rw [filled_mul hn, Nat.cast_natAbs, abs_of_neg hneg, Int.cast_neg, neg_neg]
  · rw [if_neg hneg]
    refine congrArg some ?_
    rw [filled_mul hn, Nat.cast_natAbs, abs_of_nonneg (Int.not_lt.mp hneg)]

end Value.Number

/-- A whole number is a decimal of the same value. -/
theorem Decimal.rational_ofInt64 (n : Int64) : (ofInt64 n).rational = n.toInt := by
  have hunits := units_eq_rational (ofInt64 n)
  rw [units_ofInt64, Int.cast_mul, Int.cast_pow, Int.cast_ofNat] at hunits
  exact (mul_right_cancel₀ (pow_ne_zero _ (by decide)) hunits).symm

/-- Only whole numbers are widened. -/
theorem TypeTag.reconcile_eq_right {nominal actual : TypeTag}
    (h : nominal = .double ∨ nominal = .decimal → actual ≠ .int ∧ actual ≠ .long) :
    nominal.reconcile actual = actual := by
  cases nominal with
  | double | decimal => cases actual <;> simp_all [reconcile]
  | _ => rfl

namespace Cell

variable {column : String} {nominal : TypeTag} {v : Value}

/-- The type of another value leaves what is no whole number as it is. -/
theorem decode_eq_own [Host] (h : v.integer? = none ∨ nominal ≠ .double ∧ nominal ≠ .decimal) :
    decode column nominal v = decode column (.ofValue v) v := by
  have hnominal : nominal.reconcile (.ofValue v) = .ofValue v := by
    refine TypeTag.reconcile_eq_right fun hwide => ?_
    rcases h with h | ⟨hdouble, hdecimal⟩
    · cases v with
      | int n => cases h
      | long n => cases h
      | _ => exact ⟨nofun, nofun⟩
    · exact (hwide.elim hdouble hdecimal).elim
  have hown : (TypeTag.ofValue v).reconcile (.ofValue v) = .ofValue v := by
    refine TypeTag.reconcile_eq_right fun hwide => ?_
    rcases hwide with hwide | hwide <;> rw [hwide] <;> exact ⟨nofun, nofun⟩
  rw [decode, decode, hnominal, hown]

/-- Under the type of doubles a whole number becomes one. -/
theorem decode_widened_double [Host] {n : Int} (h : v.integer? = some n) :
    decode column .double v = .ok (.double (doubleOfInt n)) := by
  cases v <;> cases h <;> rfl

/-- Under the type of decimals a whole number becomes one, of the same value. -/
theorem decode_widened_decimal [Host] {n : Int} (h : v.integer? = some n) :
    ∃ d, decode column .decimal v = .ok (.decimal d) ∧ d.rational = n := by
  cases v with
  | int k =>
    cases h
    refine ⟨_, rfl, ?_⟩
    rw [Decimal.rational_ofInt64, Int32.toInt_toInt64]
  | long k =>
    cases h
    exact ⟨_, rfl, Decimal.rational_ofInt64 k⟩
  | _ => cases h

theorem decode_isOk [Host] : (∃ cell, decode column nominal v = .ok cell) ↔
    ∃ cell, decode column (.ofValue v) v = .ok cell := by
  cases hv : v.integer? with
  | none => rw [decode_eq_own (.inl hv)]
  | some n =>
    have hown : ∃ cell, decode column (.ofValue v) v = .ok cell := by
      cases v <;> first | exact ⟨_, rfl⟩ | cases hv
    refine iff_of_true ?_ hown
    by_cases hdouble : nominal = .double
    · exact ⟨_, hdouble ▸ decode_widened_double hv⟩
    · by_cases hdecimal : nominal = .decimal
      · rw [hdecimal]
        obtain ⟨d, hd, -⟩ : ∃ d, decode column .decimal v = .ok (.decimal d) ∧ d.rational = n :=
          decode_widened_decimal hv
        exact ⟨_, hd⟩
      · rwa [decode_eq_own (.inr ⟨hdouble, hdecimal⟩)]

/-- Whatever type its column has been given, a value is read as under its own type, except that a
whole number becomes a double or a decimal where that is the type: a decimal of its value, and a
double of its value if it has 32 bits. Whether a document is read does not depend on the types. -/
theorem decode_sampled [Host] (column : String) (nominal : TypeTag) (v : Value) :
    (v.integer? = none ∨ nominal ≠ .double ∧ nominal ≠ .decimal →
      decode column nominal v = decode column (.ofValue v) v) ∧
    (∀ n, v.integer? = some n → nominal = .double →
      ∃ x, decode column nominal v = .ok (.double x) ∧
        ((∃ k, v = .int k) → Value.Number.rational? x = some (n : ℚ))) ∧
    (∀ n, v.integer? = some n → nominal = .decimal →
      ∃ d, decode column nominal v = .ok (.decimal d) ∧ d.rational = n) ∧
    ∀ (types others : TypeMap) (joined : Option String) (d : Document),
      (∃ row, Row.ofDocument types joined d = .ok row) ↔
        ∃ row, Row.ofDocument others joined d = .ok row := by
  refine ⟨decode_eq_own, ?_, ?_, fun types others joined d => ?_⟩
  · rintro n hv rfl
    refine ⟨_, decode_widened_double hv, ?_⟩
    rintro ⟨k, rfl⟩
    cases hv
    have hlow := k.le_toInt
    have hhigh := k.toInt_lt
    exact Value.Number.rational?_doubleOfInt (by omega)
  · rintro n hv rfl
    exact decode_widened_decimal hv
  · rw [Row.ofDocument_eq, Row.ofDocument_eq, Row.foldlM_addSource_isOk,
      Row.foldlM_addSource_isOk]
    exact forall₂_congr fun s _ => decode_isOk.trans decode_isOk.symm

/-- A whole number and a text in a column that is said to hold doubles. -/
theorem decode_sampled_double :
    (∃ x, decode "n" .double (.int 7) = .ok (.double x) ∧
      Value.Number.rational? x = some ((7 : Int) : ℚ)) ∧
    decode "n" .double (.string "seven") = .ok (.string "seven") := by
  obtain ⟨x, hx, hvalue⟩ := (decode_sampled "n" .double (.int 7)).2.1 7 rfl rfl
  have htext := (decode_sampled "n" .double (.string "seven")).1 (.inl rfl)
  exact ⟨⟨x, hx, hvalue ⟨7, rfl⟩⟩, htext.trans (decode_text "n" rfl rfl)⟩

end Cell

end SqlGateway
