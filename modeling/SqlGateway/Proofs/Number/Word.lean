import SqlGateway.Proofs.Number.Whole

/-! Floats and their words. A float that is stored as its word is the float that is read from it:
the word of a NaN is always the same one, and no other word is lost in taking it apart. -/

namespace SqlGateway

open Float.Model (Format UnpackedFloat)
open Float.Model.UnpackedFloat

theorem sign_toBitVec_ofBitVec (b : BitVec 1) : (Sign.ofBitVec b).toBitVec = b := by
  revert b
  decide

/-- A word is put together from its sign, exponent and mantissa. -/
theorem packComponents_unpack (b : BitVec Format.binary64.numBits) :
    packComponents .binary64 (Sign.ofBitVec (unpackSign b)) (unpackExponent b) (unpackMantissa b) =
      b := by
  simp only [packComponents, sign_toBitVec_ofBitVec, unpackSign, unpackExponent, unpackMantissa,
    BitVec.extractLsb]
  ext i hi
  grind

/-- The word of a float with the least exponent, which has no bit before the point. -/
theorem pack_unpack_subnormal {m : BitVec 52} (hm : m ≠ 0#52) (s : Sign) :
    pack .binary64 (unpack .binary64 (packComponents .binary64 s 0#11 m)) =
      packComponents .binary64 s 0#11 m := by
  have hpos : 0 < m.toNat := Nat.pos_of_ne_zero fun h => hm (BitVec.eq_of_toNat_eq h)
  have hshort : m.toNat.log2 < 52 := (Nat.log2_lt (Nat.ne_of_gt hpos)).mpr m.isLt
  have hunpacked : unpack .binary64 (packComponents .binary64 s 0#11 m) =
      .finite s m.toNat (-1074) hpos := by
    rw [unpack]
    simp only [unpackMantissa_packComponents, unpackExponent_packComponents,
      unpackSign_packComponents, Sign.ofBitVec_toBitVec]
    exact dif_neg hm
  rw [hunpacked, pack]
  refine (if_neg (by decide)).trans ((if_neg (Nat.ne_of_lt (Nat.succ_lt_succ hshort))).trans ?_)
  rw [BitVec.ofNat_toNat, BitVec.setWidth_eq]

/-- The word of a float with a proper exponent. -/
theorem pack_unpack_normal {e : BitVec 11} (he : e ≠ -1#11) (hzero : e ≠ 0#11) (m : BitVec 52)
    (s : Sign) :
    pack .binary64 (unpack .binary64 (packComponents .binary64 s e m)) =
      packComponents .binary64 s e m := by
  have hmantissa := m.isLt
  have hfull : IsFull (2 ^ 52 + m.toNat) := ⟨by omega, by omega⟩
  have hexponent : 0 < e.toNat ∧ e.toNat < 2047 := by
    have hne : e.toNat ≠ 2047 := fun h => he (BitVec.eq_of_toNat_eq h)
    have hpos : e.toNat ≠ 0 := fun h => hzero (BitVec.eq_of_toNat_eq h)
    have := e.isLt
    omega
  have hword : packComponents .binary64 s e m = packComponents .binary64 s (BitVec.ofNat 11 e.toNat)
      (BitVec.ofNat 52 (2 ^ 52 + m.toNat)) := by
    rw [BitVec.ofNat_toNat, BitVec.setWidth_eq]
    congr 1
    apply BitVec.eq_of_toNat_eq
    rw [BitVec.toNat_ofNat, Nat.add_mod_left, Nat.mod_eq_of_lt hmantissa]
  rw [hword, unpack_components hexponent hfull, pack_full hfull hexponent.2]

theorem pack_unpack {b : BitVec Format.binary64.numBits} (h : Format.binary64.Valid b) :
    pack .binary64 (unpack .binary64 b) = b := by
  -- only the NaNs lose bits: all but one of their words are not valid
  by_cases hexponent : unpackExponent b = -1#11
  · by_cases hmantissa : unpackMantissa b = 0#52
    · have hword := packComponents_unpack b
      rw [hexponent, hmantissa] at hword
      rw [unpack]
      exact (congrArg _ ((if_pos hexponent).trans (if_pos hmantissa))).trans hword
    · rw [unpack]
      exact (congrArg _ ((if_pos hexponent).trans (if_neg hmantissa))).trans
        (h.eq_packedNaN hexponent hmantissa).symm
  · by_cases hleast : unpackExponent b = 0#11
    · have hword := packComponents_unpack b
      rw [hleast] at hword
      by_cases hmantissa : unpackMantissa b = 0#52
      · rw [hmantissa] at hword
        rw [unpack]
        exact (congrArg _ ((if_neg hexponent).trans
          ((if_pos hleast).trans (dif_pos hmantissa)))).trans hword
      · rw [← hword]
        exact pack_unpack_subnormal hmantissa _
    · rw [← packComponents_unpack b]
      exact pack_unpack_normal hexponent hleast _ _

/-- A float is what its word holds. -/
theorem ofBits_toBits (x : Float) : Float.ofBits x.toBits = x := by
  obtain ⟨⟨bits, hvalid⟩⟩ := x
  change Float.ofModel (Float.Model.pack (unpack .binary64 bits.toBitVec)) = _
  have hpacked := pack_unpack hvalid
  simp only [Float.Model.pack, hpacked]

theorem Double.toFloat_ofFloat (x : Float) : (Double.ofFloat x).toFloat = x := ofBits_toBits x

end SqlGateway
