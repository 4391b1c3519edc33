import SqlGateway.Proofs.Number.Double

/-! The order of values turns round when its two values change places, whatever they are: NaN and
decimals that stand for no number included, which are equal to every number. -/

namespace SqlGateway.Value

/-! ### Scalars -/

theorem orderText_eq (s t : String) : orderText s t = compare s t := rfl

theorem orderText_eq_iff {s t : String} : orderText s t = .eq ↔ s = t := by
  rw [orderText_eq]
  exact Std.LawfulEqOrd.compare_eq_iff_eq

theorem orderText_swap (s t : String) : orderText t s = (orderText s t).swap := by
  rw [orderText_eq, orderText_eq]
  exact Std.OrientedOrd.eq_swap

theorem orderBytes_eq (as bs : List UInt8) : orderBytes as bs = compare as bs := by
  have hbyte (a b : UInt8) : compare a.toNat b.toNat = compare a b := by
    simp only [compare, compareOfLessAndEq, UInt8.lt_iff_toNat_lt, UInt8.toNat_inj]
  induction as generalizing bs with
  | nil => cases bs <;> rfl
  | cons a as ih =>
    cases bs with
    | nil => rfl
    | cons b bs => rw [orderBytes, List.compare_cons_cons, hbyte, ih]

theorem Number.order_swap (x y : Number) : y.order x = (x.order y).swap := by
  cases x <;> cases y
  case whole.whole => exact Std.OrientedOrd.eq_swap
  case whole.exact => exact Std.OrientedOrd.eq_swap
  case exact.whole => exact Std.OrientedOrd.eq_swap
  case exact.exact => exact Std.OrientedOrd.eq_swap
  all_goals exact orderDoubles_swap _ _

theorem orderScalars_swap (a b : Value) : orderScalars b a = (orderScalars a b).swap := by
  rw [orderScalars.eq_def a b]
  split
  case h_1 => exact orderText_swap _ _
  case h_2 => exact orderText_swap _ _
  case h_3 => exact orderText_swap _ _
  case h_4 => exact orderText_swap _ _
  case h_5 =>
    rw [orderScalars, orderBytes_eq, orderBytes_eq]
    exact Std.OrientedOrd.eq_swap
  case h_6 => exact Std.OrientedOrd.eq_swap
  case h_7 => exact Std.OrientedOrd.eq_swap
  case h_8 => exact Std.OrientedOrd.eq_swap
  case h_9 s t =>
    rw [orderScalars, Ordering.swap_then, ← Std.OrientedOrd.eq_swap, ← Std.OrientedOrd.eq_swap]
  case h_10 => rw [orderScalars, Ordering.swap_then, ← orderText_swap, ← orderText_swap]
  case h_11 =>
    -- no pair of one kind but numbers: the same holds the other way round
    rw [orderScalars.eq_def]
    split
    case h_11 =>
      rcases ha : Number.ofValue? a with _ | x <;> rcases hb : Number.ofValue? b with _ | y
      · rfl
      · rfl
      · rfl
      · exact Number.order_swap x y
    all_goals simp_all

/-! ### All values -/

mutual

/-- The order turns round with its values. -/
theorem order_swap (a b : Value) : order b a = (order a b).swap := by
  rw [order.eq_def a b]
  split
  · exact orderFields_swap _ _
  · exact orderItems_swap _ _
  · next hdocument harray =>
    rw [order.eq_3 b a (fun x y hb ha => hdocument y x ha hb) fun x y hb ha => harray y x ha hb,
      Ordering.swap_then, orderScalars_swap a b, ← Std.OrientedOrd.eq_swap]

theorem orderItems_swap (as bs : List Value) : orderItems bs as = (orderItems as bs).swap := by
  match as, bs with
  | [], [] => rfl
  | [], _ :: _ => rfl
  | _ :: _, [] => rfl
  | a :: as, b :: bs =>
    rw [orderItems, orderItems, Ordering.swap_then, order_swap a b, orderItems_swap as bs]

theorem orderFields_swap (as bs : List (String × Value)) :
    orderFields bs as = (orderFields as bs).swap := by
  match as, bs with
  | [], [] => rfl
  | [], _ :: _ => rfl
  | _ :: _, [] => rfl
  | (k, a) :: as, (l, b) :: bs =>
    rw [orderFields, orderFields, Ordering.swap_then, Ordering.swap_then, order_swap a b,
      orderText_swap k l, orderFields_swap as bs]

end

theorem order_eq_symm {a b : Value} (h : order a b = .eq) : order b a = .eq := by
  rw [order_swap a b, h]
  rfl

theorem order_self (a : Value) : order a a = .eq :=
  Ordering.eq_swap_iff_eq_eq.mp (order_swap a a)

end SqlGateway.Value
