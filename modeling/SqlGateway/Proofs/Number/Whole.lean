import Mathlib
import SqlGateway.Proofs.Number.Double

/-! Whole numbers of at most 53 bits are held by doubles as they are, so that they are ordered as
their doubles. -/

namespace SqlGateway

open Float.Model (Format UnpackedFloat totalExponent)
open Float.Model.UnpackedFloat

/-! ### Floats of full precision -/

/-- Whether a mantissa has all 53 bits. -/
def IsFull (m : Nat) : Prop := 2 ^ 52 ≤ m ∧ m < 2 ^ 53

namespace IsFull

variable {m : Nat}

theorem pos (h : IsFull m) : 0 < m := Nat.lt_of_lt_of_le (Nat.two_pow_pos 52) h.1

theorem log2 (h : IsFull m) (k : Nat) : (m * 2 ^ k).log2 = 52 + k := by
  have hne : m * 2 ^ k ≠ 0 := Nat.ne_of_gt (Nat.mul_pos h.pos (Nat.two_pow_pos k))
  rw [Nat.log2_eq_iff hne, Nat.pow_add, show 52 + k + 1 = 53 + k by omega, Nat.pow_add]
  exact ⟨Nat.mul_le_mul_right _ h.1, Nat.mul_lt_mul_of_pos_right h.2 (Nat.two_pow_pos k)⟩

/-- The exponent that such a mantissa has is the one that the format asks for. -/
theorem targetExponent (h : IsFull m) {e : Int} (he : -1074 ≤ e) (k : Nat) :
    Format.binary64.targetExponent (totalExponent (m * 2 ^ k) (e - k)) = e := by
  rw [totalExponent, h.log2, Format.targetExponent]
  have hbits : Format.binary64.mantissaBits = 53 := rfl
  have hleast : Format.binary64.minExponent = -1074 := rfl
  rw [hbits, hleast]
  omega

end IsFull

/-- Zeros at the end are shifted out without a trace. -/
theorem shiftRight_exact (m k : Nat) :
    ExtendedMantissa.ofMantissaAndAccuracy (m * 2 ^ k) .exact >>> k =
      ExtendedMantissa.ofMantissaAndAccuracy m .exact := by
  induction k generalizing m with
  | zero => rw [Nat.pow_zero, Nat.mul_one]; rfl
  | succ k ih =>
    have hshift := ih (m * 2)
    rw [Nat.mul_assoc, ← Nat.pow_succ'] at hshift
    change ExtendedMantissa.shiftRightOne (ExtendedMantissa.ofMantissaAndAccuracy (m * 2 ^ (k + 1))
      .exact >>> k) = _
    rw [hshift]
    simp [ExtendedMantissa.shiftRightOne, ExtendedMantissa.ofMantissaAndAccuracy]

theorem shiftToTargetExponent_exact {m : Nat} (hm : IsFull m) {e : Int} (he : -1074 ≤ e) (k : Nat) :
    shiftToTargetExponent .binary64 (m * 2 ^ k) (e - k) .exact =
      (ExtendedMantissa.ofMantissaAndAccuracy m .exact, e) := by
  rw [shiftToTargetExponent, hm.targetExponent he, shiftToExponent]
  have hshift : (e - (e - (k : Int))).toNat = k := by omega
  simp only [hshift, shiftRight_exact, Int.sub_add_cancel]

/-- What has full precision is not rounded. -/
theorem roundWithAccuracy_exact {m : Nat} (hm : IsFull m) {e : Int} (he : -1074 ≤ e) (k : Nat)
    (s : Sign) :
    roundWithAccuracy .binary64 s (m * 2 ^ k) (e - k) .exact = .finite s m e hm.pos := by
  have hagain := shiftToTargetExponent_exact hm he 0
  rw [Nat.pow_zero, Nat.mul_one, Int.natCast_zero, Int.sub_zero] at hagain
  have hrounded : (ExtendedMantissa.ofMantissaAndAccuracy m .exact).roundedMantissa = m := rfl
  unfold roundWithAccuracy
  simp only [shiftToTargetExponent_exact hm he, hrounded, hagain]
  exact dif_neg (Nat.ne_of_gt hm.pos)

/-! ### Floats and their words -/

/-- The word of a float of full precision: the bit before the point is left out. -/
theorem pack_full {m : Nat} (hm : IsFull m) {b : Nat} (hb : b < 2047) (s : Sign) :
    pack .binary64 (.finite s m (b - 1075) hm.pos) =
      packComponents .binary64 s (BitVec.ofNat 11 b) (BitVec.ofNat 52 m) := by
  have hfull : m.log2 = 52 := by simpa using hm.log2 0
  have hbiased : ((b : Int) - 1075 + Format.binary64.exponentBias + (52 : Nat)).toNat = b := by
    change ((b : Int) - 1075 + 1023 + 52).toNat = b
    omega
  rw [pack]
  simp only [hbiased, hfull]
  rw [if_neg (by omega)]
  exact if_pos rfl

/-- What a word with a proper exponent holds. -/
theorem unpack_components {b : Nat} (hb : 0 < b ∧ b < 2047) {m : Nat} (hm : IsFull m) (s : Sign) :
    unpack .binary64 (packComponents .binary64 s (BitVec.ofNat 11 b) (BitVec.ofNat 52 m)) =
      .finite s m (b - 1075) hm.pos := by
  have hexponent : (BitVec.ofNat 11 b).toNat = b := Nat.mod_eq_of_lt (by omega)
  have hproper : BitVec.ofNat 11 b ≠ -1#11 ∧ BitVec.ofNat 11 b ≠ 0#11 := by
    constructor <;> intro h <;> have hnat := congrArg BitVec.toNat h <;> rw [hexponent] at hnat <;>
      simp at hnat <;> omega
  have hmantissa : (1#1 ++ BitVec.ofNat 52 m).toNat = m := by
    have hlow : m % 4503599627370496 = m - 2 ^ 52 := by
      have := hm.1
      have := hm.2
      omega
    have hhigh := hm.1
    rw [BitVec.toNat_append, ← Nat.shiftLeft_add_eq_or_of_lt (BitVec.isLt _)]
    simp only [BitVec.toNat_ofNat, Nat.reducePow, hlow]
    omega
  rw [unpack]
  simp only [unpackMantissa_packComponents, unpackExponent_packComponents,
    unpackSign_packComponents, Sign.ofBitVec_toBitVec]
  rw [if_neg hproper.1, if_neg hproper.2]
  simp only [hmantissa, hexponent]
  rfl

/-- A float of full precision is what its word holds. -/
theorem unpack_pack {m : Nat} (hm : IsFull m) {e : Int} (he : -1074 ≤ e ∧ e ≤ 971) (s : Sign) :
    unpack .binary64 (pack .binary64 (.finite s m e hm.pos)) = .finite s m e hm.pos := by
  obtain ⟨b, hb⟩ : ∃ b : Nat, e + 1075 = b := Int.eq_ofNat_of_zero_le (by omega)
  obtain rfl : e = b - 1075 := by omega
  rw [pack_full hm (by omega), unpack_components (by omega) hm]

/-! ### Whole numbers -/

/-- A whole number with zeros at its end, so that it has all 53 bits. -/
def filled (n : Nat) : Nat := n * 2 ^ (52 - n.log2)

theorem log2_le {n : Nat} (hn : n < 2 ^ 53) : n.log2 ≤ 52 := by
  rcases Nat.eq_zero_or_pos n with rfl | hpos
  · exact Nat.zero_le _
  · exact Nat.le_of_lt_succ ((Nat.log2_lt (Nat.ne_of_gt hpos)).mpr hn)

theorem isFull_filled {n : Nat} (hpos : 0 < n) (hn : n < 2 ^ 53) : IsFull (filled n) := by
  have hlog := log2_le hn
  obtain ⟨hlow, hhigh⟩ := (Nat.log2_eq_iff (Nat.ne_of_gt hpos)).mp rfl
  have hlow' := Nat.mul_le_mul_right (2 ^ (52 - n.log2)) hlow
  have hhigh' := Nat.mul_lt_mul_of_pos_right hhigh (Nat.two_pow_pos (52 - n.log2))
  rw [← Nat.pow_add] at hlow' hhigh'
  rw [Nat.add_sub_cancel' hlog] at hlow'
  rw [show n.log2 + 1 + (52 - n.log2) = 53 by omega] at hhigh'
  exact ⟨hlow', hhigh'⟩

theorem round_whole {n : Nat} (hpos : 0 < n) (hn : n < 2 ^ 53) (s : Sign) :
    UnpackedFloat.round .binary64 s n 0 =
      .finite s (filled n) (n.log2 - 52) (isFull_filled hpos hn).pos := by
  have hlog := log2_le hn
  have htarget : Format.binary64.targetExponent (totalExponent n 0) = n.log2 - 52 := by
    change max ((n.log2 : Int) + 1 + 0 - 53) (-1074) = n.log2 - 52
    omega
  have hshift : (0 - ((n.log2 : Int) - 52)).toNat = 52 - n.log2 := by omega
  have hexact := roundWithAccuracy_exact (isFull_filled hpos hn) (e := n.log2 - 52) (by omega) 0 s
  rw [Nat.pow_zero, Nat.mul_one, Int.natCast_zero, Int.sub_zero] at hexact
  rw [UnpackedFloat.round, htarget, decreaseExponent, hshift, Nat.shiftLeft_eq]
  rw [show (0 : Int) - ((52 - n.log2 : Nat) : Int) = n.log2 - 52 by omega]
  exact hexact

namespace Value.Number

/-- The place of a whole number among all numbers. -/
def wholePlace (n : Int) : List Int :=
  if n = 0 then [0]
  else if n < 0 then [-1, -(n.natAbs.log2 - 52), -filled n.natAbs]
  else [1, n.natAbs.log2 - 52, filled n.natAbs]

theorem unpack_one : (Float.ofBits 0x3FF0000000000000).toModel.unpack =
    .finite .positive (2 ^ 52) (-52) (Nat.two_pow_pos 52) := by
  rfl

theorem unpack_toFloat {n : Nat} (hpos : 0 < n) (hn : n < 2 ^ 53) :
    n.toUInt64.toFloat.toModel.unpack =
      .finite .positive (filled n) (n.log2 - 52) (isFull_filled hpos hn).pos := by
  have hnat : n.toUInt64.toNat = n := Nat.mod_eq_of_lt (by omega)
  have hcompare : compare (n : Int) 0 = .gt := Int.compare_eq_gt.mpr (by omega)
  have hround : ofUInt64 .binary64 n.toUInt64 = UnpackedFloat.round .binary64 .positive n 0 := by
    rw [UnpackedFloat.ofUInt64, hnat, UnpackedFloat.ofNat, UnpackedFloat.ofInt,
      UnpackedFloat.normalize, hcompare]
    rfl
  have hlog := log2_le hn
  change unpack .binary64 (pack .binary64 (ofUInt64 .binary64 n.toUInt64)) = _
  rw [hround, round_whole hpos hn, unpack_pack (isFull_filled hpos hn) (by omega)]

theorem unpack_nearestDouble {n : Nat} (hpos : 0 < n) (hn : n < 2 ^ 53) :
    (Decimal.nearestDouble n).toModel.unpack =
      .finite .positive (filled n) (n.log2 - 52) (isFull_filled hpos hn).pos := by
  have hlog := log2_le hn
  have hscaled : Decimal.nearestDouble n = n.toUInt64.toFloat * Float.ofBits 0x3FF0000000000000 := by
    rw [Decimal.nearestDouble, Float.ofScientific, dif_pos ⟨hn, by decide⟩]
    rfl
  rw [hscaled]
  change unpack .binary64 (pack .binary64 (mul .binary64 n.toUInt64.toFloat.toModel.unpack
    (Float.ofBits 0x3FF0000000000000).toModel.unpack)) = _
  rw [unpack_toFloat hpos hn, unpack_one]
  change unpack .binary64 (pack .binary64 (roundWithAccuracy .binary64 .positive (filled n * 2 ^ 52)
    ((n.log2 : Int) - 52 - (52 : Nat)) .exact)) = _
  rw [roundWithAccuracy_exact (isFull_filled hpos hn) (by omega),
    unpack_pack (isFull_filled hpos hn) (by omega)]

/-- The double of a whole number of 53 bits. -/
theorem unpack_doubleOfInt {n : Int} (hzero : n ≠ 0) (hn : n.natAbs < 2 ^ 53) :
    (doubleOfInt n).toModel.unpack = .finite (if n < 0 then .negative else .positive)
      (filled n.natAbs) (n.natAbs.log2 - 52) (isFull_filled (Int.natAbs_pos.mpr hzero) hn).pos := by
  have hpos : 0 < n.natAbs := Int.natAbs_pos.mpr hzero
  rw [doubleOfInt]
  split
  · have hlog := log2_le hn
    change unpack .binary64 (pack .binary64 (Decimal.nearestDouble n.natAbs).toModel.unpack.neg) = _
    rw [unpack_nearestDouble hpos hn]
    exact unpack_pack (isFull_filled hpos hn) (by omega) .negative
  · exact unpack_nearestDouble hpos hn

/-- The double of a whole number of 53 bits has the place of the number. -/
theorem place_doubleOfInt {n : Int} (hn : n.natAbs < 2 ^ 53) :
    place (doubleOfInt n) = wholePlace n := by
  rw [place, wholePlace]
  split
  · next hzero =>
    subst hzero
    rfl
  · next hzero =>
    rw [unpack_doubleOfInt hzero hn]
    split <;> rfl

theorem lt_of_log2_lt {n m : Nat} (hm : 0 < m) (h : n.log2 < m.log2) : n < m :=
  calc
    n < 2 ^ (n.log2 + 1) := Nat.lt_log2_self
    _ ≤ 2 ^ m.log2 := Nat.pow_le_pow_right Nat.two_pos h
    _ ≤ m := Nat.log2_self_le (Nat.ne_of_gt hm)

/-- Whole numbers are ordered by their lengths, then by their bits. -/
theorem compare_log2 {n m : Nat} (hn : 0 < n) (hm : 0 < m) :
    (compare n.log2 m.log2).then (compare (filled n) (filled m)) = compare n m := by
  rcases Nat.lt_trichotomy n.log2 m.log2 with hlog | hlog | hlog
  · rw [Nat.compare_eq_lt.mpr hlog, Nat.compare_eq_lt.mpr (lt_of_log2_lt hm hlog)]
    rfl
  · have hfactor : 0 < 2 ^ (52 - m.log2) := Nat.two_pow_pos _
    rw [hlog, Nat.compare_eq_eq.mpr rfl, filled, filled, hlog]
    simp only [Ordering.eq_then, compare, compareOfLessAndEq, Nat.mul_lt_mul_right hfactor,
      Nat.mul_right_cancel_iff hfactor]
  · rw [Nat.compare_eq_gt.mpr hlog, Nat.compare_eq_gt.mpr (lt_of_log2_lt hn hlog)]
    rfl

theorem compare_magnitude {n m : Int} (hn : n ≠ 0) (hm : m ≠ 0) :
    (compare ((n.natAbs.log2 : Int) - 52) (m.natAbs.log2 - 52)).then
      (compare (filled n.natAbs : Int) (filled m.natAbs)) = compare n.natAbs m.natAbs := by
  have hshift (a b : Int) : compare (a - 52) (b - 52) = compare a b := by
    simp only [compare, compareOfLessAndEq, Int.sub_lt_sub_right_iff, Int.sub_left_inj]
  rw [hshift, compare_natCast, compare_natCast,
    compare_log2 (Int.natAbs_pos.mpr hn) (Int.natAbs_pos.mpr hm)]

theorem wholePlace_of_neg {n : Int} (h : n < 0) :
    wholePlace n = [-1, -(n.natAbs.log2 - 52 : Int), -(filled n.natAbs : Int)] := by
  rw [wholePlace, if_neg (Int.ne_of_lt h), if_pos h]

theorem wholePlace_of_pos {n : Int} (h : 0 < n) :
    wholePlace n = [1, (n.natAbs.log2 - 52 : Int), (filled n.natAbs : Int)] := by
  rw [wholePlace, if_neg (Int.ne_of_gt h), if_neg (Int.not_lt.mpr (Int.le_of_lt h))]

/-- Whole numbers are ordered as their places are. -/
theorem compare_wholePlace (n m : Int) : compare (wholePlace n) (wholePlace m) = compare n m := by
  have hbelow {n m : Int} (hn : n < 0) (hm : 0 ≤ m) :
      compare (wholePlace n) (wholePlace m) = compare n m := by
    rw [Int.compare_eq_lt.mpr (Int.lt_of_lt_of_le hn hm), wholePlace_of_neg hn]
    rcases Int.le_iff_eq_or_lt.mp hm with rfl | hm
    · rfl
    · rw [wholePlace_of_pos hm]
      rfl
  have habove {m : Int} (hm : 0 < m) : compare (wholePlace 0) (wholePlace m) = compare 0 m := by
    rw [Int.compare_eq_lt.mpr hm, wholePlace_of_pos hm]
    rfl
  have hswap {n m : Int} (h : compare (wholePlace m) (wholePlace n) = compare m n) :
      compare (wholePlace n) (wholePlace m) = compare n m := by
    rw [Std.OrientedOrd.eq_swap, h, ← Std.OrientedOrd.eq_swap]
  rcases Int.lt_trichotomy n 0 with hn | rfl | hn <;> rcases Int.lt_trichotomy m 0 with hm | rfl | hm
  case inl.inl =>
    have hsame : (compare n.natAbs m.natAbs).swap = compare n m := by
      rw [← compare_natCast, ← compare_neg]
      congr 1 <;> omega
    rw [wholePlace_of_neg hn, wholePlace_of_neg hm, compare_place, compare_neg, compare_neg,
      ← Ordering.swap_then, compare_magnitude (Int.ne_of_lt hn) (Int.ne_of_lt hm), hsame]
  case inr.inr.inr.inr =>
    have hsame : compare n.natAbs m.natAbs = compare n m := by
      rw [← compare_natCast]
      congr 1 <;> omega
    rw [wholePlace_of_pos hn, wholePlace_of_pos hm, compare_place,
      compare_magnitude (Int.ne_of_gt hn) (Int.ne_of_gt hm), hsame]
  case inr.inl.inr.inl => rw [Std.ReflOrd.compare_self, Std.ReflOrd.compare_self]
  case inl.inr.inl => exact hbelow hn (Int.le_refl 0)
  case inl.inr.inr => exact hbelow hn (Int.le_of_lt hm)
  case inr.inl.inr.inr => exact habove hm
  case inr.inl.inl => exact hswap (hbelow hm (Int.le_refl 0))
  case inr.inr.inl => exact hswap (hbelow hm (Int.le_of_lt hn))
  case inr.inr.inr.inl => exact hswap (habove hn)

end Value.Number

end SqlGateway
