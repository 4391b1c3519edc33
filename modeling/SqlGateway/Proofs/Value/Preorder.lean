import Mathlib.Tactic.Ring
import SqlGateway.Number.Decimal
import SqlGateway.Proofs.Number.Whole
import SqlGateway.Proofs.Value.Order

/-! What the order of values is, and what it is not. It turns round with its values, and every value
is equal to itself. One value after another gives an order only as far as numbers allow it: a double
stands for more than one whole number, and NaN is equal to all. -/

/-! ### The order of decimals

It is that of whole numbers: of how many units of the last digit they hold that a decimal can
have. -/

namespace SqlGateway.Decimal

/-- A decimal in units of the last digit that a decimal can have. -/
def units (d : Decimal) : Int := d.mantissa * 10 ^ (maxScale - d.scale)

theorem compare_mul {k : Int} (hk : 0 < k) (m n : Int) : compare (m * k) (n * k) = compare m n := by
  simp only [compare, compareOfLessAndEq, Int.mul_lt_mul_right hk,
    Int.mul_eq_mul_right_iff (Int.ne_of_gt hk)]

theorem order_eq_units (a b : Decimal) : a.order b = compare a.units b.units := by
  have hpow (n : Nat) : (0 : Int) < 10 ^ n := Int.pow_pos (by decide)
  have hscale (d : Decimal) : (10 : Int) ^ maxScale = 10 ^ d.scale * 10 ^ (maxScale - d.scale) := by
    rw [← Int.pow_add, Nat.add_sub_cancel' (show d.scale ≤ maxScale from d.scale_le)]
  calc
    a.order b = compare (a.mantissa * 10 ^ b.scale * (10 ^ (maxScale - a.scale) *
          10 ^ (maxScale - b.scale)))
        (b.mantissa * 10 ^ a.scale * (10 ^ (maxScale - a.scale) * 10 ^ (maxScale - b.scale))) :=
      (compare_mul (Int.mul_pos (hpow _) (hpow _)) _ _).symm
    _ = compare (a.units * 10 ^ maxScale) (b.units * 10 ^ maxScale) := by
      congr 1
      · rw [units, hscale b]; ring
      · rw [units, hscale a]; ring
    _ = compare a.units b.units := compare_mul (hpow maxScale) _ _

theorem units_ofInt64 (n : Int64) : (ofInt64 n).units = n.toInt * 10 ^ maxScale := by
  have hroom : n.toInt.natAbs < room ∧ 0 ≤ 28 := by
    have hlow := n.le_toInt
    have hhigh := n.toInt_lt
    rw [room, Nat.one_shiftLeft]
    omega
  rw [ofInt64, ofParts?, dif_pos hroom]
  rfl

end SqlGateway.Decimal

namespace SqlGateway

/-! ### Two orders after each other -/

/-- Whether the order of a first and a third value is what their orders with a second say. -/
def Composes (first second both : Ordering) : Prop :=
  first.isLE → second.isLE → both = first.then second

namespace Composes

theorem of_compare {α : Type} [Ord α] [Std.TransOrd α] (a b c : α) :
    Composes (compare a b) (compare b c) (compare a c) := by
  intro hab hbc
  cases h : compare a b with
  | lt => exact Std.TransCmp.lt_of_lt_of_isLE h hbc
  | eq => exact Std.TransCmp.congr_left h
  | gt => rw [h] at hab; cases hab

/-- What is compared second matters where what is compared first is equal. -/
theorem thenWith {o₁ o₂ o₃ p₁ p₂ p₃ : Ordering} (h : Composes o₁ o₂ o₃)
    (h' : o₁ = .eq → o₂ = .eq → Composes p₁ p₂ p₃) :
    Composes (o₁.then p₁) (o₂.then p₂) (o₃.then p₃) := by
  intro hfirst hsecond
  cases o₁ with
  | gt => cases hfirst
  | lt =>
    have hthird : o₃ = .lt := h rfl (by cases o₂ <;> first | rfl | exact hsecond)
    rw [hthird]
    rfl
  | eq =>
    have hthird : o₃ = o₂ := h rfl (by cases o₂ <;> first | rfl | exact hsecond)
    rw [hthird]
    cases o₂ with
    | gt => cases hsecond
    | lt => cases p₁ <;> first | rfl | cases hfirst
    | eq => exact h' rfl rfl hfirst hsecond

theorem isLE {first second both : Ordering} (h : Composes first second both)
    (hfirst : first.isLE) (hsecond : second.isLE) : both.isLE := by
  rw [h hfirst hsecond]
  cases first <;> assumption

theorem comm {first second both : Ordering} (h : Composes first second both) :
    Composes second first both := by
  intro hsecond hfirst
  rw [h hfirst hsecond]
  cases first with
  | lt => cases second <;> first | rfl | cases hsecond
  | eq => cases second <;> rfl
  | gt => cases hfirst

end Composes

namespace Value

/-! ### Numbers -/

namespace Number

/-- Whether a number is not held as a double. -/
def isExact : Number → Bool
  | .double _ => false
  | _ => true

/-- An exact number in units of the last digit that a decimal can have. -/
def units : Number → Int
  | .whole n => n.toInt * 10 ^ Decimal.maxScale
  | .exact d => d.units
  | .double _ => 0

/-- Exact numbers are ordered by value. -/
theorem order_eq_units {x y : Number} (hx : x.isExact = true) (hy : y.isExact = true) :
    x.order y = compare x.units y.units := by
  cases x with
  | double x => cases hx
  | whole n =>
    cases y with
    | double y => cases hy
    | whole m => exact (Decimal.compare_mul (Int.pow_pos (by decide)) _ _).symm
    | exact e => rw [order, Decimal.order_eq_units, Decimal.units_ofInt64]; rfl
  | exact d =>
    cases y with
    | double y => cases hy
    | whole m => rw [order, Decimal.order_eq_units, Decimal.units_ofInt64]; rfl
    | exact e => exact Decimal.order_eq_units d e

/-- Whether numbers are ordered consistently: either none is a double, or all are ordered as their
doubles are, and none of these is NaN. -/
def Comparable (numbers : List Number) : Prop :=
  (∀ x ∈ numbers, x.isExact = true) ∨
    ∀ x ∈ numbers, x.toDouble.isNaN = false ∧
      ∀ y ∈ numbers, x.order y = orderDoubles x.toDouble y.toDouble

/-- Whether a double holds a number without loss: a double that is not NaN, or a whole number of at
most 53 bits. -/
def FitsDouble : Number → Prop
  | .whole n => n.toInt.natAbs < 2 ^ 53
  | .double x => x.isNaN = false
  | .exact _ => False

instance : (x : Number) → Decidable x.FitsDouble
  | .whole n => inferInstanceAs (Decidable (n.toInt.natAbs < 2 ^ 53))
  | .double x => inferInstanceAs (Decidable (x.isNaN = false))
  | .exact _ => .isFalse id

theorem place_whole {n : Int64} (h : n.toInt.natAbs < 2 ^ 53) :
    place (whole n).toDouble = wholePlace n.toInt :=
  place_doubleOfInt h

theorem isNaN_of_fitsDouble {x : Number} (h : x.FitsDouble) : x.toDouble.isNaN = false := by
  cases x with
  | whole n =>
    refine isNaN_eq_false ?_
    rw [place_whole h, wholePlace]
    split
    · exact List.cons_ne_nil _ _
    · split <;> exact List.cons_ne_nil _ _
  | double x => exact h
  | exact d => exact absurd h id

/-- Numbers that doubles hold without loss are ordered as these. -/
theorem order_of_fitsDouble {x y : Number} (hx : x.FitsDouble) (hy : y.FitsDouble) :
    x.order y = orderDoubles x.toDouble y.toDouble := by
  cases x with
  | whole n =>
    cases y with
    | whole m =>
      rw [orderDoubles_eq (isNaN_of_fitsDouble hx) (isNaN_of_fitsDouble hy), place_whole hx,
        place_whole hy, compare_wholePlace]
      rfl
    | double y => rfl
    | exact e => exact absurd hy id
  | double x => cases y <;> rfl
  | exact d => exact absurd hx id

theorem comparable_of_fitsDouble {numbers : List Number} (h : ∀ x ∈ numbers, x.FitsDouble) :
    Comparable numbers :=
  .inr fun x hx => ⟨isNaN_of_fitsDouble (h x hx), fun y hy => order_of_fitsDouble (h x hx) (h y hy)⟩

theorem composes_order {numbers : List Number} (h : Comparable numbers) {x y z : Number}
    (hx : x ∈ numbers) (hy : y ∈ numbers) (hz : z ∈ numbers) :
    Composes (x.order y) (y.order z) (x.order z) := by
  rcases h with h | h
  · rw [order_eq_units (h x hx) (h y hy), order_eq_units (h y hy) (h z hz),
      order_eq_units (h x hx) (h z hz)]
    exact .of_compare _ _ _
  · obtain ⟨hx', hxs⟩ := h x hx
    obtain ⟨hy', hys⟩ := h y hy
    obtain ⟨hz', -⟩ := h z hz
    rw [hxs y hy, hys z hz, hxs z hz, orderDoubles_eq hx' hy', orderDoubles_eq hy' hz',
      orderDoubles_eq hx' hz']
    exact .of_compare _ _ _

end Number

mutual

/-- The numbers in a value, at any depth. A decimal that stands for no number is `none`. -/
def numbers : Value → List (Option Number)
  | .int n => [Number.ofValue? (.int n)]
  | .long n => [Number.ofValue? (.long n)]
  | .double x => [Number.ofValue? (.double x)]
  | .decimal d => [Number.ofValue? (.decimal d)]
  | .array items => itemsNumbers items
  | .document fields => fieldsNumbers fields
  | _ => []

/-- The numbers in items. -/
def itemsNumbers : List Value → List (Option Number)
  | [] => []
  | v :: vs => numbers v ++ itemsNumbers vs

/-- The numbers in fields. -/
def fieldsNumbers : List (String × Value) → List (Option Number)
  | [] => []
  | (_, v) :: fs => numbers v ++ fieldsNumbers fs

end

/-- Whether all that is a number in values stands for one, and these are ordered consistently. -/
def Comparable (values : List Value) : Prop :=
  ∃ ns : List Number, values.flatMap numbers = ns.map some ∧ Number.Comparable ns

/-! ### Values of one class -/

/-- The order of values of one class. -/
def within : Value → Value → Ordering
  | .document a, .document b => orderFields a b
  | .array a, .array b => orderItems a b
  | a, b => orderScalars a b

theorem order_eq_within (a b : Value) :
    order a b = (compare a.classRank b.classRank).then (within a b) := by
  rw [order.eq_def]
  split
  · rfl
  · rfl
  · next hdocument harray => rw [within.eq_3 a b hdocument harray]

variable {ns : List Number}

theorem composes_text (s t u : String) :
    Composes (orderText s t) (orderText t u) (orderText s u) := by
  simp only [orderText_eq]
  exact .of_compare s t u

theorem composes_bytes (as bs cs : List UInt8) :
    Composes (orderBytes as bs) (orderBytes bs cs) (orderBytes as cs) := by
  simp only [orderBytes_eq]
  exact .of_compare as bs cs

theorem orderScalars_of_number {a b : Value} {x y : Number} (ha : Number.ofValue? a = some x)
    (hb : Number.ofValue? b = some y) : orderScalars a b = x.order y := by
  rw [orderScalars.eq_def]
  split
  case h_11 => rw [ha, hb]
  all_goals cases ha

theorem composes_numbers (h : Number.Comparable ns) {a b c : Value}
    (ha : Number.ofValue? a ∈ ns.map some) (hb : Number.ofValue? b ∈ ns.map some)
    (hc : Number.ofValue? c ∈ ns.map some) :
    Composes (orderScalars a b) (orderScalars b c) (orderScalars a c) := by
  obtain ⟨x, hx, hax⟩ := List.mem_map.mp ha
  obtain ⟨y, hy, hby⟩ := List.mem_map.mp hb
  obtain ⟨z, hz, hcz⟩ := List.mem_map.mp hc
  rw [orderScalars_of_number hax.symm hby.symm, orderScalars_of_number hby.symm hcz.symm,
    orderScalars_of_number hax.symm hcz.symm]
  exact Number.composes_order h hx hy hz

theorem numbers_of_classRank {v : Value} (h : v.classRank = 2) :
    v.numbers = [Number.ofValue? v] := by
  cases v <;> first | rfl | cases h

theorem orderScalars_of_classRank {a b : Value} (h : a.classRank ∈ [0, 1, 12, 13]) :
    orderScalars a b = .eq := by
  rw [orderScalars.eq_def]
  split
  case h_11 =>
    have hnone : Number.ofValue? a = none := by cases a <;> first | rfl | simp [classRank] at h
    rw [hnone]
  all_goals simp [classRank] at h

/-- Values of one class that hold no others. -/
theorem composes_scalars (h : Number.Comparable ns) {a b c : Value}
    (hab : a.classRank = b.classRank) (hbc : b.classRank = c.classRank)
    (ha : a.numbers ⊆ ns.map some) (hb : b.numbers ⊆ ns.map some) (hc : c.numbers ⊆ ns.map some) :
    Composes (orderScalars a b) (orderScalars b c) (orderScalars a c) := by
  by_cases hnumber : a.classRank = 2
  · rw [numbers_of_classRank hnumber] at ha
    rw [numbers_of_classRank (hab.symm.trans hnumber)] at hb
    rw [numbers_of_classRank ((hab.trans hbc).symm.trans hnumber)] at hc
    exact composes_numbers h (ha (List.mem_singleton.mpr rfl)) (hb (List.mem_singleton.mpr rfl))
      (hc (List.mem_singleton.mpr rfl))
  by_cases halike : a.classRank ∈ [0, 1, 12, 13]
  · rw [orderScalars_of_classRank halike, orderScalars_of_classRank halike,
      orderScalars_of_classRank (hab ▸ halike)]
    exact fun _ _ => rfl
  -- the equations of the ranks leave only values of one kind; strings and symbols share theirs
  cases a with
  | string s =>
    cases b <;> cases hab <;> cases c <;> cases hbc <;> exact composes_text _ _ _
  | symbol s =>
    cases b <;> cases hab <;> cases c <;> cases hbc <;> exact composes_text _ _ _
  | binary x =>
    cases b <;> cases hab
    cases c <;> cases hbc
    exact composes_bytes _ _ _
  | objectId x =>
    cases b <;> cases hab
    cases c <;> cases hbc
    exact .of_compare _ _ _
  | bool x =>
    cases b <;> cases hab
    cases c <;> cases hbc
    exact .of_compare _ _ _
  | date x =>
    cases b <;> cases hab
    cases c <;> cases hbc
    exact .of_compare _ _ _
  | timestamp x =>
    cases b <;> cases hab
    cases c <;> cases hbc
    exact .thenWith (.of_compare _ _ _) fun _ _ => .of_compare _ _ _
  | regex x =>
    cases b <;> cases hab
    cases c <;> cases hbc
    exact .thenWith (composes_text _ _ _) fun _ _ => composes_text _ _ _
  | array x =>
    cases b <;> cases hab
    cases c <;> cases hbc
    exact fun _ _ => rfl
  | document x =>
    cases b <;> cases hab
    cases c <;> cases hbc
    exact fun _ _ => rfl
  | _ => simp [classRank] at hnumber halike

/-! ### All values -/

theorem document_of_classRank {v : Value} (h : v.classRank = 4) : ∃ fields, v = .document fields := by
  cases v <;> first | exact ⟨_, rfl⟩ | cases h

theorem array_of_classRank {v : Value} (h : v.classRank = 5) : ∃ items, v = .array items := by
  cases v <;> first | exact ⟨_, rfl⟩ | cases h

/-- Apart from documents and arrays, no value of a class holds others. -/
theorem within_of_classRank {a : Value} (h : a.classRank ≠ 4 ∧ a.classRank ≠ 5) (b : Value) :
    within a b = orderScalars a b := by
  rw [within.eq_def]
  split
  · exact absurd rfl h.1
  · exact absurd rfl h.2
  · rfl

mutual

/-- Values whose numbers are ordered consistently are so themselves. -/
theorem composes_order (h : Number.Comparable ns) (a b c : Value) (ha : a.numbers ⊆ ns.map some)
    (hb : b.numbers ⊆ ns.map some) (hc : c.numbers ⊆ ns.map some) :
    Composes (order a b) (order b c) (order a c) := by
  rw [order_eq_within, order_eq_within, order_eq_within]
  refine .thenWith (.of_compare _ _ _) fun hab hbc => ?_
  have hab : a.classRank = b.classRank := Std.LawfulEqOrd.eq_of_compare hab
  have hbc : b.classRank = c.classRank := Std.LawfulEqOrd.eq_of_compare hbc
  rw [within.eq_def a b]
  split
  · obtain ⟨cs, rfl⟩ := document_of_classRank hbc.symm
    exact composes_fields h _ _ cs ha hb hc
  · obtain ⟨cs, rfl⟩ := array_of_classRank hbc.symm
    exact composes_items h _ _ cs ha hb hc
  · next hdocument harray =>
    have hscalar : a.classRank ≠ 4 ∧ a.classRank ≠ 5 := by
      constructor
      · intro hrank
        obtain ⟨as, rfl⟩ := document_of_classRank hrank
        obtain ⟨bs, rfl⟩ := document_of_classRank hab.symm
        exact hdocument as bs rfl rfl
      · intro hrank
        obtain ⟨as, rfl⟩ := array_of_classRank hrank
        obtain ⟨bs, rfl⟩ := array_of_classRank hab.symm
        exact harray as bs rfl rfl
    rw [within_of_classRank hscalar, within_of_classRank (hab ▸ hscalar)]
    exact composes_scalars h hab hbc ha hb hc

theorem composes_items (h : Number.Comparable ns) (as bs cs : List Value)
    (ha : itemsNumbers as ⊆ ns.map some) (hb : itemsNumbers bs ⊆ ns.map some)
    (hc : itemsNumbers cs ⊆ ns.map some) :
    Composes (orderItems as bs) (orderItems bs cs) (orderItems as cs) := by
  match as, bs, cs with
  | [], [], [] => exact fun _ _ => rfl
  | [], [], _ :: _ => exact fun _ _ => rfl
  | [], _ :: _, [] => exact fun _ h => nomatch h
  | [], _ :: _, _ :: _ => exact fun _ _ => rfl
  | _ :: _, [], _ => exact fun h => nomatch h
  | _ :: _, _ :: _, [] => exact fun _ h => nomatch h
  | a :: as, b :: bs, c :: cs =>
    obtain ⟨ha, has⟩ := List.append_subset.mp ha
    obtain ⟨hb, hbs⟩ := List.append_subset.mp hb
    obtain ⟨hc, hcs⟩ := List.append_subset.mp hc
    exact .thenWith (composes_order h a b c ha hb hc) fun _ _ =>
      composes_items h as bs cs has hbs hcs

theorem composes_fields (h : Number.Comparable ns) (as bs cs : List (String × Value))
    (ha : fieldsNumbers as ⊆ ns.map some) (hb : fieldsNumbers bs ⊆ ns.map some)
    (hc : fieldsNumbers cs ⊆ ns.map some) :
    Composes (orderFields as bs) (orderFields bs cs) (orderFields as cs) := by
  match as, bs, cs with
  | [], [], [] => exact fun _ _ => rfl
  | [], [], _ :: _ => exact fun _ _ => rfl
  | [], _ :: _, [] => exact fun _ h => nomatch h
  | [], _ :: _, _ :: _ => exact fun _ _ => rfl
  | _ :: _, [], _ => exact fun h => nomatch h
  | _ :: _, _ :: _, [] => exact fun _ h => nomatch h
  | (k, a) :: as, (l, b) :: bs, (m, c) :: cs =>
    obtain ⟨ha, has⟩ := List.append_subset.mp ha
    obtain ⟨hb, hbs⟩ := List.append_subset.mp hb
    obtain ⟨hc, hcs⟩ := List.append_subset.mp hc
    exact .thenWith (.thenWith (composes_order h a b c ha hb hc) fun _ _ => composes_text k l m)
      fun _ _ => composes_fields h as bs cs has hbs hcs

end

theorem equal_iff {a b : Value} : equal a b = true ↔ order a b = .eq := beq_iff_eq

theorem equal_self (a : Value) : a.equal a = true := equal_iff.mpr (order_self a)

theorem equal_symm {a b : Value} (h : a.equal b = true) : b.equal a = true :=
  equal_iff.mpr (order_eq_symm (equal_iff.mp h))

theorem composes_of_comparable {a b c : Value} (h : Comparable [a, b, c]) :
    Composes (order a b) (order b c) (order a c) := by
  obtain ⟨ns, hnumbers, hns⟩ := h
  have hamong : ∀ v ∈ [a, b, c], v.numbers ⊆ ns.map some := fun v hv n hn =>
    hnumbers ▸ List.mem_flatMap.mpr ⟨v, hv, hn⟩
  exact composes_order hns a b c (hamong a (by simp)) (hamong b (by simp)) (hamong c (by simp))

/-- Whether every number in a value, at any depth, is exact: neither a double nor a decimal that
stands for no number. -/
def Exact (v : Value) : Prop := ∀ n ∈ v.numbers, n.any Number.isExact = true

instance : DecidablePred Exact := fun v =>
  inferInstanceAs (Decidable (∀ n ∈ v.numbers, n.any Number.isExact = true))

theorem exact_null : Value.null.Exact := nofun

theorem comparable_of_exact {values : List Value} (h : ∀ v ∈ values, v.Exact) :
    Comparable values := by
  have hexact : ∀ n ∈ values.flatMap numbers, n.any Number.isExact = true := by
    intro n hn
    obtain ⟨v, hv, hn⟩ := List.mem_flatMap.mp hn
    exact h v hv n hn
  refine ⟨(values.flatMap numbers).filterMap id, ?_, .inl fun x hx => ?_⟩
  · have hsome : ∀ n ∈ values.flatMap numbers, n.isSome = true := by
      intro n hn
      cases n with
      | none => cases hexact none hn
      | some x => rfl
    rw [List.map_filterMap_some_eq_filter_map_isSome, List.map_id, List.filter_eq_self.mpr hsome]
  · obtain ⟨n, hn, rfl⟩ := List.mem_filterMap.mp hx
    exact hexact _ hn

theorem composes_of_exact {a b c : Value} (ha : a.Exact) (hb : b.Exact) (hc : c.Exact) :
    Composes (order a b) (order b c) (order a c) :=
  composes_of_comparable (comparable_of_exact (by simp [ha, hb, hc]))

theorem equal_trans {a b c : Value} (ha : a.Exact) (hb : b.Exact) (hc : c.Exact)
    (hab : a.equal b = true) (hbc : b.equal c = true) : a.equal c = true := by
  have hcomposes := composes_of_exact ha hb hc
  rw [equal_iff.mp hab, equal_iff.mp hbc] at hcomposes
  exact equal_iff.mpr (hcomposes rfl rfl)

/-- The order of values is total and turns round with them, and equality is reflexive and symmetric.
Both are transitive among values whose numbers are ordered consistently, as they are if none is a
double, and if doubles hold all without loss. -/
theorem order_preorder (a b c : Value) :
    order b a = (order a b).swap ∧ equal a a = true ∧ equal a b = equal b a ∧
      (Comparable [a, b, c] →
        ((order a b).isLE → (order b c).isLE → (order a c).isLE) ∧
          (equal a b = true → equal b c = true → equal a c = true)) ∧
      ∀ ns : List Number, [a, b, c].flatMap numbers = ns.map some →
        (∀ x ∈ ns, x.isExact = true) ∨ (∀ x ∈ ns, x.FitsDouble) → Comparable [a, b, c] := by
  refine ⟨order_swap a b, equal_iff.mpr (order_self a), ?_, fun h => ?_,
    fun ns hnumbers hns => ⟨ns, hnumbers, hns.elim .inl Number.comparable_of_fitsDouble⟩⟩
  · rw [Bool.eq_iff_iff, equal_iff, equal_iff]
    exact ⟨order_eq_symm, order_eq_symm⟩
  · have hcomposes := composes_of_comparable h
    refine ⟨hcomposes.isLE, fun hab hbc => ?_⟩
    rw [equal_iff] at hab hbc ⊢
    rw [hab, hbc] at hcomposes
    exact hcomposes rfl rfl

/-- Three numbers of three types, inside documents and arrays. -/
theorem order_preorder_nested :
    let a := Value.document [("n", .array [.int 2])]
    let b := Value.document [("n", .array [.double ⟨0x4004000000000000⟩])]
    let c := Value.document [("n", .array [.long 3])]
    Comparable [a, b, c] ∧ (order a b).isLE ∧ (order b c).isLE ∧ (order a c).isLE := by
  intro a b c
  obtain ⟨-, -, -, htrans, hcomparable⟩ := order_preorder a b c
  have hnumbers : Comparable [a, b, c] := by
    let ns : List Number := [.whole 2, .double (Float.ofBits 0x4004000000000000), .whole 3]
    have hfits : ∀ x ∈ ns, x.FitsDouble := by decide +kernel
    exact hcomparable ns rfl (.inr hfits)
  have hab : (order a b).isLE := by decide +kernel
  have hbc : (order b c).isLE := by decide +kernel
  exact ⟨hnumbers, hab, hbc, (htrans hnumbers).1 hab hbc⟩

/-- Two whole numbers that are not equal, both equal to the double between them. -/
theorem equal_double_of_longs :
    let double := Value.double ⟨0x4340000000000000⟩
    equal (.long 9007199254740993) double = true ∧ equal double (.long 9007199254740992) = true ∧
      order (.long 9007199254740993) (.long 9007199254740992) = .gt := by
  decide +kernel

end Value

end SqlGateway
