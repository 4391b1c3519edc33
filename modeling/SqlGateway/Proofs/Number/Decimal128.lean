import Mathlib.Data.Nat.Digits.Defs
import Mathlib.Tactic.Ring
import SqlGateway.Number.Decimal128

/-! Decimals in 128 bits. Zeros are appended to a coefficient, and digits cut off it, one at a time;
what comes out is the coefficient times or through a power of ten, wherever that has a mantissa of
96 bits. The word of an exact decimal has an exponent in the usual encoding and a coefficient of at
most 96 bits, so that the decimal is read back as it was, its scale included. -/

namespace SqlGateway

namespace Decimal

/-- The mantissa and the scale. -/
def parts (d : Decimal) : Int × Nat := (d.mantissa, d.scale)

theorem ofParts?_eq_none {mantissa : Int} (h : room ≤ mantissa.natAbs) (scale : Nat) :
    ofParts? mantissa scale = none :=
  dif_neg fun hparts => Nat.not_lt.mpr h hparts.1

theorem map_parts_ofParts? (mantissa : Int) {scale : Nat} (hscale : scale ≤ maxScale) :
    (ofParts? mantissa scale).map parts =
      if mantissa.natAbs < room then some (mantissa, scale) else none := by
  by_cases h : mantissa.natAbs < room
  · rw [ofParts?, dif_pos ⟨h, hscale⟩, if_pos h]
    rfl
  · rw [ofParts?_eq_none (Nat.not_lt.mp h), if_neg h]
    rfl

end Decimal

namespace Decimal128

/-! ### Digits one by one -/

theorem appendZeros?_eq {c : Nat} (hc : c < 2 ^ 128) (n : Nat) :
    appendZeros? n c = if c * 10 ^ n < 2 ^ 128 then some (c * 10 ^ n) else none := by
  induction n generalizing c with
  | zero => rw [appendZeros?, Nat.pow_zero, Nat.mul_one, if_pos hc]
  | succ n ih =>
    have hpow : c * 10 ^ (n + 1) = c * 10 * 10 ^ n := by ring
    rw [appendZeros?, hpow]
    split
    · next hfits => exact ih hfits
    · next hfull =>
      have hgrows : c * 10 ≤ c * 10 * 10 ^ n := Nat.le_mul_of_pos_right _ (Nat.pow_pos (by decide))
      rw [if_neg (by omega)]

theorem cutDigits_eq (scale c : Nat) :
    cutDigits scale c =
      (c / 10 ^ (scale - Decimal.maxScale), min scale Decimal.maxScale) := by
  induction scale generalizing c with
  | zero => rw [cutDigits, Nat.zero_sub, Nat.pow_zero, Nat.div_one, Nat.zero_min]
  | succ s ih =>
    rw [cutDigits]
    split
    · next hcut =>
      have hcut := Nat.le_of_lt_succ hcut
      rw [ih, Nat.div_div_eq_div_mul, ← Nat.pow_succ', ← Nat.succ_sub hcut, Nat.min_eq_right hcut,
        Nat.min_eq_right (Nat.le_succ_of_le hcut)]
    · next hkeep =>
      have hkeep := Nat.not_lt.mp hkeep
      rw [Nat.sub_eq_zero_of_le hkeep, Nat.pow_zero, Nat.div_one, Nat.min_eq_left hkeep]

/-! ### Fields of a word -/

theorem isNegative_eq (x : Decimal128) : x.isNegative = decide (2 ^ 127 ≤ x.bits.toNat) :=
  BitVec.msb_eq_decide x.bits

theorem combination_eq (x : Decimal128) : x.combination = x.bits.toNat / 2 ^ 122 % 2 ^ 5 := by
  rw [combination, BitVec.extractLsb'_toNat, Nat.shiftRight_eq_div_pow]

theorem exponent_eq (x : Decimal128) :
    x.exponent = (x.bits.toNat / 2 ^ 113 % 2 ^ 14 : Nat) - (exponentBias : Int) := by
  rw [exponent, BitVec.extractLsb'_toNat, Nat.shiftRight_eq_div_pow]

theorem coefficient_eq (x : Decimal128) : x.coefficient = x.bits.toNat % 2 ^ 113 := by
  rw [coefficient, BitVec.extractLsb'_toNat, Nat.shiftRight_zero]

theorem toNat_ofFields (negative : Bool) {e c : Nat} (he : e < 2 ^ 14) (hc : c < 2 ^ 113) :
    (ofFields negative e c).bits.toNat = (negative.toNat * 2 ^ 14 + e) * 2 ^ 113 + c := by
  have he' : (BitVec.ofNat 14 e).toNat = e := Nat.mod_eq_of_lt he
  have hc' : (BitVec.ofNat 113 c).toNat = c := Nat.mod_eq_of_lt hc
  change (BitVec.ofBool negative ++ BitVec.ofNat 14 e ++ BitVec.ofNat 113 c).toNat = _
  rw [BitVec.toNat_append, BitVec.toNat_append, he', hc', BitVec.toNat_ofBool,
    ← Nat.shiftLeft_add_eq_or_of_lt he, ← Nat.shiftLeft_add_eq_or_of_lt hc, Nat.shiftLeft_eq,
    Nat.shiftLeft_eq]

section

variable (negative : Bool) {e c : Nat} (he : e < 2 ^ 14) (hc : c < 2 ^ 113)

include he hc

theorem isNegative_ofFields : (ofFields negative e c).isNegative = negative := by
  rw [isNegative_eq, toNat_ofFields negative he hc]
  cases negative <;> simp <;> omega

theorem combination_ofFields : (ofFields negative e c).combination = e / 2 ^ 9 := by
  rw [combination_eq, toNat_ofFields negative he hc]
  omega

theorem exponent_ofFields : (ofFields negative e c).exponent = e - (exponentBias : Int) := by
  rw [exponent_eq, toNat_ofFields negative he hc]
  omega

theorem coefficient_ofFields : (ofFields negative e c).coefficient = c := by
  rw [coefficient_eq, toNat_ofFields negative he hc]
  omega

end

/-! ### Decoding -/

/-- A whole number with the sign of a word. -/
def signed (x : Decimal128) (m : Nat) : Int := if x.isNegative then -(m : Int) else m

theorem natAbs_signed (x : Decimal128) (m : Nat) : (x.signed m).natAbs = m := by
  rw [signed]
  split <;> omega

/-- Only mantissas of 96 bits are kept, so that the longer ones need not be told apart. -/
theorem ofParts?_signed (x : Decimal128) (m scale : Nat) :
    (if m < 2 ^ 127 then Decimal.ofParts? (x.signed m) scale else none) =
      Decimal.ofParts? (x.signed m) scale := by
  split
  · rfl
  · next hlong =>
    have hroom : Decimal.room ≤ (x.signed m).natAbs := by
      rw [natAbs_signed, Decimal.room, Nat.one_shiftLeft]
      omega
    exact (Decimal.ofParts?_eq_none hroom scale).symm

section

variable {x : Decimal128} (h : x.combination / 8 ≠ 3)

include h

/-- A positive exponent makes the coefficient longer. -/
theorem toDecimal?_of_pos (he : 0 < x.exponent) :
    x.toDecimal? = Decimal.ofParts? (x.signed (x.coefficient * 10 ^ x.exponent.toNat)) 0 := by
  have hc : x.coefficient < 2 ^ 128 := by
    rw [coefficient_eq]
    omega
  rw [toDecimal?, if_neg h, if_pos he, appendZeros?_eq hc]
  split
  · exact ofParts?_signed x _ 0
  · next hlong =>
    have hroom : Decimal.room ≤ (x.signed (x.coefficient * 10 ^ x.exponent.toNat)).natAbs := by
      rw [natAbs_signed, Decimal.room, Nat.one_shiftLeft]
      omega
    exact (Decimal.ofParts?_eq_none hroom 0).symm

/-- Any other exponent is a scale, up to the greatest one. -/
theorem toDecimal?_of_nonpos (he : x.exponent ≤ 0) :
    x.toDecimal? = Decimal.ofParts?
      (x.signed (x.coefficient / 10 ^ ((-x.exponent).toNat - Decimal.maxScale)))
      (min (-x.exponent).toNat Decimal.maxScale) := by
  rw [toDecimal?, if_neg h, if_neg (Int.not_lt.mpr he), cutDigits_eq]
  exact ofParts?_signed x _ _

end

/-- A stored decimal is read as the same mantissa and scale. -/
theorem toDecimal?_ofDecimal (d : Decimal) : (ofDecimal d).toDecimal? = some d := by
  have hscale := d.scale_le
  have hmantissa := d.mantissa_lt
  have hroom : Decimal.room = 2 ^ 96 := rfl
  have he : exponentBias - d.scale < 2 ^ 14 := by rw [exponentBias]; omega
  have hc : d.mantissa.natAbs < 2 ^ 113 := by omega
  have hcombination : (ofDecimal d).combination / 8 ≠ 3 := by
    rw [ofDecimal, combination_ofFields _ he hc, exponentBias]
    omega
  have hexponent : (ofDecimal d).exponent = -(d.scale : Int) := by
    rw [ofDecimal, exponent_ofFields _ he hc, exponentBias]
    omega
  have hsigned : (ofDecimal d).signed (ofDecimal d).coefficient = d.mantissa := by
    rw [signed, ofDecimal, isNegative_ofFields _ he hc, coefficient_ofFields _ he hc]
    split
    · next hneg =>
      have := of_decide_eq_true hneg
      omega
    · next hpos =>
      have := of_decide_eq_false (eq_false_of_ne_true hpos)
      omega
  have hkeep : (-(-(d.scale : Int))).toNat = d.scale := by omega
  have hcut : d.scale - Decimal.maxScale = 0 := Nat.sub_eq_zero_of_le hscale
  have hmin : min d.scale Decimal.maxScale = d.scale := Nat.min_eq_left hscale
  rw [toDecimal?_of_nonpos hcombination (by omega), hexponent, hkeep, hcut, hmin, Nat.pow_zero,
    Nat.div_one, hsigned, Decimal.ofParts?_mantissa_scale]

/-! ### Stored bytes -/

/-- The number that sixteen bytes are, the least significant one first. -/
def wordOf (bytes : Vector UInt8 16) : Nat := Nat.ofDigits 256 (bytes.toList.map UInt8.toNat)

/-- The sign in the highest bit of a word. -/
def signOf (word : Nat) : Int := if word / 2 ^ 127 = 1 then -1 else 1

/-- The exponent in the fourteen bits after the sign. -/
def exponentOf (word : Nat) : Int := (word / 2 ^ 113 % 2 ^ 14 : Nat) - 6176

/-- The coefficient in the other bits. -/
def coefficientOf (word : Nat) : Nat := word % 2 ^ 113

/-- Whether the two bits after the sign mark a special word. -/
def IsSpecial (word : Nat) : Prop := word / 2 ^ 125 % 2 ^ 2 = 3

/-- Whether a special word is an infinity or no number. -/
def IsUnordered (word : Nat) : Prop := word / 2 ^ 123 % 2 ^ 4 = 15

instance (word : Nat) : Decidable (IsSpecial word) := inferInstanceAs (Decidable (_ = _))

instance (word : Nat) : Decidable (IsUnordered word) := inferInstanceAs (Decidable (_ = _))

/-- The word of bytes in stored order. -/
def ofStored (bytes : Vector UInt8 16) : Decimal128 := ofBytes (bytes.toList.map UInt8.toNat)

theorem toNat_ofStored (bytes : Vector UInt8 16) : (ofStored bytes).bits.toNat = wordOf bytes := by
  have hword : wordOf bytes < 2 ^ 128 := by
    have hbytes : ∀ b ∈ bytes.toList.map UInt8.toNat, b < 256 := by
      intro b hb
      obtain ⟨byte, -, rfl⟩ := List.mem_map.mp hb
      exact byte.toNat_lt
    have hlt := Nat.ofDigits_lt_base_pow_length (by decide) hbytes
    rwa [List.length_map, Vector.length_toList] at hlt
  have hfold : (bytes.toList.map UInt8.toNat).foldr (fun b n => b + 256 * n) 0 = wordOf bytes :=
    (Nat.ofDigits_eq_foldr 256 _).symm
  rw [ofStored, ofBytes, hfold, BitVec.toNat_ofNat, Nat.mod_eq_of_lt hword]

/-- The lowest bytes of a number, put together again. -/
theorem foldr_bytes (k n : Nat) :
    ((List.range k).map fun i => n / 2 ^ (8 * i) % 2 ^ 8).foldr (fun b m => b + 256 * m) 0 =
      n % 2 ^ (8 * k) := by
  induction k generalizing n with
  | zero => exact (Nat.mod_one n).symm
  | succ k ih =>
    have hrest : (fun i => n / 2 ^ (8 * (i + 1)) % 2 ^ 8) =
        fun i => n / 2 ^ 8 / 2 ^ (8 * i) % 2 ^ 8 := by
      funext i
      rw [Nat.div_div_eq_div_mul, ← Nat.pow_add, Nat.mul_succ, Nat.add_comm]
    have hpow : 2 ^ (8 * (k + 1)) = 2 ^ 8 * 2 ^ (8 * k) := by
      rw [← Nat.pow_add, Nat.mul_succ, Nat.add_comm]
    rw [List.range_succ_eq_map, List.map_cons, List.map_map, List.foldr_cons, hpow, Nat.mod_mul,
      ← ih (n / 2 ^ 8), ← hrest]
    simp only [Nat.mul_zero, Nat.pow_zero, Nat.div_one]
    rfl

/-- A word that is stored as bytes is read as the same word. -/
theorem ofBytes_toBytes (x : Decimal128) : ofBytes x.toBytes = x := by
  have hbytes : x.toBytes = (List.range 16).map fun i => x.bits.toNat / 2 ^ (8 * i) % 2 ^ 8 := by
    refine List.map_congr_left fun i _ => ?_
    rw [BitVec.extractLsb'_toNat, Nat.shiftRight_eq_div_pow]
  rw [ofBytes, hbytes, foldr_bytes, Nat.mod_eq_of_lt x.bits.isLt, BitVec.ofNat_toNat,
    BitVec.setWidth_eq]

section

variable (bytes : Vector UInt8 16)

theorem combination_ofStored :
    (ofStored bytes).combination / 8 = wordOf bytes / 2 ^ 125 % 2 ^ 2 ∧
      (ofStored bytes).combination / 2 = wordOf bytes / 2 ^ 123 % 2 ^ 4 := by
  rw [combination_eq, toNat_ofStored]
  omega

theorem exponent_ofStored : (ofStored bytes).exponent = exponentOf (wordOf bytes) := by
  rw [exponent_eq, toNat_ofStored]
  rfl

theorem coefficient_ofStored : (ofStored bytes).coefficient = coefficientOf (wordOf bytes) := by
  rw [coefficient_eq, toNat_ofStored]
  rfl

theorem signed_ofStored (m : Nat) : (ofStored bytes).signed m = signOf (wordOf bytes) * m := by
  have hword := (ofStored bytes).bits.isLt
  rw [signed, isNegative_eq, signOf]
  rw [toNat_ofStored] at hword ⊢
  simp only [decide_eq_true_eq]
  split <;> split <;> omega

end

/-- Every decimal is read back from the bytes in which it is stored, scale included. Sixteen bytes
of any kind are read by their sign, exponent and coefficient: a positive exponent of ten makes the
coefficient longer, any other one is a scale, past the greatest of which digits are cut off; what
then takes more than 96 bits is refused. Of the special words, infinities and NaN are refused and
all others are zero. -/
theorem toDecimal?_bytes :
    (∀ d : Decimal, (ofBytes (ofDecimal d).toBytes).toDecimal? = some d) ∧
    ∀ bytes : Vector UInt8 16,
      let word := wordOf bytes
      let exponent := exponentOf word
      (ofStored bytes).toDecimal?.map Decimal.parts =
        if IsSpecial word then if IsUnordered word then none else some (0, 0)
        else if 0 < exponent then
          let magnitude := coefficientOf word * 10 ^ exponent.toNat
          if magnitude < 2 ^ 96 then some (signOf word * magnitude, 0) else none
        else
          let magnitude := coefficientOf word / 10 ^ (max 0 (-exponent - 28)).toNat
          if magnitude < 2 ^ 96 then some (signOf word * magnitude, (min (-exponent) 28).toNat)
          else none := by
  refine ⟨fun d => by rw [ofBytes_toBytes, toDecimal?_ofDecimal], fun bytes => ?_⟩
  obtain ⟨hspecial, hunordered⟩ := combination_ofStored bytes
  have hroom : Decimal.room = 2 ^ 96 := rfl
  dsimp only
  by_cases h : IsSpecial (wordOf bytes)
  · rw [toDecimal?, if_pos (hspecial.trans h), if_pos h]
    by_cases hnone : IsUnordered (wordOf bytes)
    · rw [if_pos (hunordered.trans hnone), if_pos hnone]
      rfl
    · rw [if_neg fun heq => hnone (hunordered.symm.trans heq), if_neg hnone]
      rfl
  · have husual : (ofStored bytes).combination / 8 ≠ 3 := fun heq => h (hspecial.symm.trans heq)
    rw [if_neg h]
    split
    · next he =>
      rw [toDecimal?_of_pos husual (by rwa [exponent_ofStored]),
        Decimal.map_parts_ofParts? _ (Nat.zero_le _), natAbs_signed, signed_ofStored,
        exponent_ofStored, coefficient_ofStored, hroom]
    · next he =>
      have he := Int.not_lt.mp he
      have hscale : (-exponentOf (wordOf bytes)).toNat - Decimal.maxScale =
          (max 0 (-exponentOf (wordOf bytes) - 28)).toNat := by
        rw [Decimal.maxScale]
        omega
      have hmin : min (-exponentOf (wordOf bytes)).toNat Decimal.maxScale =
          (min (-exponentOf (wordOf bytes)) 28).toNat := by
        rw [Decimal.maxScale]
        omega
      rw [toDecimal?_of_nonpos husual (by rwa [exponent_ofStored]),
        Decimal.map_parts_ofParts? _ (Nat.min_le_right _ _), natAbs_signed, signed_ofStored,
        exponent_ofStored, coefficient_ofStored, hroom, hscale, hmin]

end Decimal128

end SqlGateway
