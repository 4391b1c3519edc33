import SqlGateway.Value.Order

/-! The order of doubles. A number has a place among all numbers, and doubles are ordered as
their places are; NaN has none, and is equal to everything. -/

namespace SqlGateway

open Float.Model (UnpackedFloat)

/-! ### Places -/

/-- The place of a number among all numbers: by sign, then by exponent, then by mantissa. -/
def placeOf : UnpackedFloat → List Int
  | .infinity .negative => [-2]
  | .finite .negative m e _ => [-1, -e, -m]
  | .zero _ => [0]
  | .finite .positive m e _ => [1, e, m]
  | .infinity .positive => [2]
  | .notANumber => []

theorem compare_neg (a b : Int) : compare (-a) (-b) = (compare a b).swap := by
  rcases Int.lt_trichotomy a b with h | rfl | h
  · rw [Int.compare_eq_lt.mpr h, Int.compare_eq_gt.mpr (Int.neg_lt_neg h)]
    rfl
  · rw [Std.ReflOrd.compare_self, Std.ReflOrd.compare_self]
    rfl
  · rw [Int.compare_eq_gt.mpr h, Int.compare_eq_lt.mpr (Int.neg_lt_neg h)]
    rfl

theorem compare_natCast (a b : Nat) : compare (a : Int) (b : Int) = compare a b := by
  simp only [compare, compareOfLessAndEq, Int.ofNat_lt, Int.natCast_inj]

/-- Among numbers of one sign, the exponents matter first and then the mantissas. -/
theorem compare_place (s a b c d : Int) :
    compare [s, a, b] [s, c, d] = (compare a c).then (compare b d) := by
  rw [List.compare_cons_cons, List.compare_cons_cons, List.compare_cons_cons,
    Std.ReflOrd.compare_self, List.compare_nil_nil, Ordering.then_eq]
  rfl

theorem compare_placeOf {f g : UnpackedFloat} (hf : f.isNaN = false) (hg : g.isNaN = false) :
    f.compare g = some (compare (placeOf f) (placeOf g)) := by
  cases f with
  | notANumber => cases hf
  | infinity s =>
    cases g with
    | notANumber => cases hg
    | infinity t => cases s <;> cases t <;> rfl
    | zero t => cases s <;> rfl
    | finite t m e => cases s <;> cases t <;> rfl
  | zero s =>
    cases g with
    | notANumber => cases hg
    | infinity t => cases t <;> rfl
    | zero t => rfl
    | finite t m e => cases t <;> rfl
  | finite s m e =>
    -- only two finite numbers of one sign are compared by more than their first entries
    cases g with
    | notANumber => cases hg
    | infinity t => cases s <;> cases t <;> rfl
    | zero t => cases s <;> rfl
    | finite t n k =>
      cases s <;> cases t
      · change some ((compare e k).then (compare m n)).swap =
          some (compare [-1, -e, -(m : Int)] [-1, -k, -(n : Int)])
        rw [compare_place, compare_neg, compare_neg, compare_natCast, Ordering.swap_then]
      · rfl
      · rfl
      · change some ((compare e k).then (compare m n)) =
          some (compare [1, e, (m : Int)] [1, k, (n : Int)])
        rw [compare_place, compare_natCast]

theorem compare_of_isNaN {f g : UnpackedFloat} (h : f.isNaN = true ∨ g.isNaN = true) :
    f.compare g = none := by
  cases f with
  | notANumber => rfl
  | infinity s =>
    cases g with
    | notANumber => cases s <;> rfl
    | _ => rcases h with h | h <;> cases h
  | _ =>
    cases g with
    | notANumber => rfl
    | _ => rcases h with h | h <;> cases h

namespace Value.Number

/-! ### The order of doubles -/

/-- The place of a double. -/
def place (x : Float) : List Int := placeOf x.toModel.unpack

theorem isNaN_eq_false {x : Float} (h : place x ≠ []) : x.isNaN = false := by
  change x.toModel.unpack.isNaN = false
  cases hx : x.toModel.unpack with
  | notANumber => exact absurd (by rw [place, hx]; rfl) h
  | _ => rfl

theorem lt_iff {x y : Float} : x < y ↔ x.toModel.unpack.compare y.toModel.unpack = some .lt := by
  change decide (_ = true) = true ↔ _
  rw [decide_eq_true_iff]
  exact beq_iff_eq

theorem lt_iff_place {x y : Float} (hx : x.isNaN = false) (hy : y.isNaN = false) :
    x < y ↔ compare (place x) (place y) = .lt := by
  rw [lt_iff, compare_placeOf hx hy, Option.some_inj]
  rfl

theorem not_lt_of_isNaN {x y : Float} (h : x.isNaN = true ∨ y.isNaN = true) : ¬x < y := by
  rw [lt_iff, compare_of_isNaN h]
  exact nofun

/-- Doubles are ordered as their places are. -/
theorem orderDoubles_eq {x y : Float} (hx : x.isNaN = false) (hy : y.isNaN = false) :
    orderDoubles x y = compare (place x) (place y) := by
  have hswap : compare (place y) (place x) = (compare (place x) (place y)).swap :=
    Std.OrientedCmp.eq_swap
  simp only [orderDoubles, lt_iff_place hx hy, lt_iff_place hy hx, hswap]
  cases compare (place x) (place y) <;> rfl

theorem orderDoubles_of_isNaN {x y : Float} (h : x.isNaN = true ∨ y.isNaN = true) :
    orderDoubles x y = .eq := by
  rw [orderDoubles, if_neg (not_lt_of_isNaN h), if_neg (not_lt_of_isNaN h.symm)]

theorem orderDoubles_swap (x y : Float) : orderDoubles y x = (orderDoubles x y).swap := by
  by_cases hnan : x.isNaN = true ∨ y.isNaN = true
  · rw [orderDoubles_of_isNaN hnan, orderDoubles_of_isNaN hnan.symm]
    rfl
  · obtain ⟨hx, hy⟩ : x.isNaN = false ∧ y.isNaN = false := by simpa using hnan
    rw [orderDoubles_eq hx hy, orderDoubles_eq hy hx]
    exact Std.OrientedCmp.eq_swap

end Value.Number

end SqlGateway
