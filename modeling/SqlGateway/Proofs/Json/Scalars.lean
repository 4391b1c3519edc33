import Mathlib.Tactic.SplitIfs
import SqlGateway.Json.Reading
import SqlGateway.Proofs.Text.Digits

/-! Strings and whole numbers in JSON texts: what is written for one is read as it, whatever stands
behind it in a value. -/

namespace SqlGateway.Json

/-! ### Strings -/

/-- A control character is written as four digits that stand for it. -/
theorem ofHex?_hexDigits : ∀ n < 0x20,
    (hexDigits 4 n).length = 4 ∧ ofHex? (hexDigits 4 n) = some n := by decide

/-- The escape of a character is read as its code point. -/
theorem codePoints?_escapeChar (c : Char) (read : List Nat) (cs : List Char) :
    codePoints? read (escapeChar c ++ cs) = codePoints? (c.toNat :: read) cs := by
  unfold escapeChar
  split_ifs with hquote hslash hback hfeed hline hreturn htab hcontrol
  · rw [hquote]; rfl
  · rw [hslash]; rfl
  · rw [hback]; rfl
  · rw [hfeed]; rfl
  · rw [hline]; rfl
  · rw [hreturn]; rfl
  · rw [htab]; rfl
  · obtain ⟨hlength, hread⟩ := ofHex?_hexDigits _ hcontrol
    match hexDigits 4 c.toNat, hlength, hread with
    | [a, b, c, d], _, hread =>
      simp only [List.cons_append, List.nil_append, codePoints?, hread]
      rfl
  · have hplain : ¬ (decide (c.toNat < 0x20) || decide (c = '\\')) = true := by
      simp [hcontrol, hslash]
    rw [List.cons_append, List.nil_append, codePoints?, if_neg hplain]
    · exact hquote
    · exact fun _ _ _ _ _ h _ => hslash h
    · exact fun _ _ h _ => hslash h

theorem codePoints?_flatMap_escapeChar (cs : List Char) (read : List Nat) (rest : List Char) :
    codePoints? read (cs.flatMap escapeChar ++ '"' :: rest) =
      some (read.reverse ++ cs.map Char.toNat, rest) := by
  induction cs generalizing read with
  | nil => simp [codePoints?]
  | cons c cs ih =>
    rw [List.flatMap_cons, List.append_assoc, codePoints?_escapeChar, ih, List.reverse_cons,
      List.append_assoc, List.map_cons, List.singleton_append]

/-- The code points of characters are read as those characters. -/
theorem ofCodePoints?_map_toNat (cs : List Char) : ofCodePoints? (cs.map Char.toNat) = some cs := by
  induction cs with
  | nil => rfl
  | cons c cs ih =>
    have hvalid : c.toNat.isValidChar := c.valid
    cases cs with
    | nil => exact dif_pos hvalid
    | cons d cs =>
      have hread : ofCodePoints? ((c :: d :: cs).map Char.toNat) =
          (ofCodePoints? ((d :: cs).map Char.toNat)).map (c :: ·) := dif_pos hvalid
      rw [hread, ih, Option.map_some]

/-- What stands for a text behind its opening quote. -/
def quotedRest (s : String) : List Char := s.toList.flatMap escapeChar ++ ['"']

theorem toList_quote (s : String) : (quote s).toList = '"' :: quotedRest s := by
  rw [quote, String.toList_ofList]
  rfl

theorem stringRest?_quotedRest (s : String) (rest : List Char) :
    stringRest? (quotedRest s ++ rest) = some (some s, rest) := by
  rw [quotedRest, List.append_assoc, List.singleton_append, stringRest?,
    codePoints?_flatMap_escapeChar, List.reverse_nil, List.nil_append]
  dsimp only [Option.map_some]
  rw [ofCodePoints?_map_toNat, Option.map_some, String.ofList_toList]

/-! ### Whole numbers -/

/-- Digits are taken into a significand as long as it fits. -/
theorem takeDigits_append {ds : List Char} (hds : ∀ c ∈ ds, isDigit c = true) {rest : List Char}
    (hrest : ∀ c ∈ rest.head?, isDigit c = false) {significand : Nat} (taken : Nat)
    (hfits : significand * 10 ^ ds.length + ofDigits ds < significandLimit) :
    takeDigits significand taken (ds ++ rest) =
      (significand * 10 ^ ds.length + ofDigits ds, taken + ds.length, rest, false) := by
  induction ds generalizing significand taken with
  | nil =>
    have hvalue : significand * 10 ^ ([] : List Char).length + ofDigits [] = significand :=
      Nat.mul_one significand
    rw [hvalue, List.nil_append, List.length_nil, Nat.add_zero]
    cases rest with
    | nil => rfl
    | cons c cs =>
      have hc : ¬ isDigit c = true := by rw [hrest c rfl]; exact Bool.false_ne_true
      rw [takeDigits, if_neg hc]
  | cons c cs ih =>
    rw [List.forall_mem_cons] at hds
    rw [shift_ofDigits_cons] at hfits ⊢
    have hnext : ¬ significandLimit ≤ 10 * significand + digitValue c :=
      Nat.not_le.mpr (Nat.lt_of_le_of_lt (le_shift_ofDigits _ cs) hfits)
    rw [List.cons_append, takeDigits, if_pos hds.1, if_neg hnext, ih hds.2 (taken + 1) hfits,
      List.length_cons, Nat.add_right_comm, Nat.add_assoc]

/-- Whether a value is over where a text begins: at its end, or at a comma or closing bracket. -/
def Stops (rest : List Char) : Prop := ∀ c ∈ rest.head?, c = ',' ∨ c = ']' ∨ c = '}'

namespace Stops

variable {rest : List Char}

theorem nil : Stops [] := nofun

theorem cons {c : Char} (h : c = ',' ∨ c = ']' ∨ c = '}') : Stops (c :: rest) :=
  fun _ hc => Option.mem_some_iff.mp hc ▸ h

theorem isDigit_eq_false (h : Stops rest) : ∀ c ∈ rest.head?, isDigit c = false := by
  intro c hc
  rcases h c hc with rfl | rfl | rfl <;> rfl

end Stops

/-- The whole numbers of 64 bits, signed or not. -/
def IsWide (n : Int) : Prop := Int64.minValue.toInt ≤ n ∧ n < UInt64.size

theorem IsWide.of_signed {n : Int} (hlow : -2 ^ 63 ≤ n) (hhigh : n < 2 ^ 63) : IsWide n := by
  rw [IsWide, show Int64.minValue.toInt = -9223372036854775808 from rfl,
    show UInt64.size = 18446744073709551616 from rfl]
  omega

theorem IsWide.of_natCast {n : Nat} (h : n < 2 ^ 64) : IsWide n := by
  rw [IsWide, show Int64.minValue.toInt = -9223372036854775808 from rfl,
    show UInt64.size = 18446744073709551616 from rfl]
  omega

section

variable {n : Nat} {rest : List Char}

/-- Digits that are followed by no other are read as a number of no more digits than they are. -/
theorem unsigned?_eq_go (negative : Bool) (hrest : Stops rest) :
    unsigned? negative (digitsOf n ++ rest) = unsigned?.go negative (digitsOf n ++ rest) := by
  obtain ⟨d, ds, hds⟩ := List.exists_cons_of_ne_nil (show digitsOf n ≠ [] from Nat.toDigits_ne_nil)
  have hd : isDigit d = true := isDigit_of_mem_digitsOf (hds ▸ List.mem_cons_self)
  generalize htext : digitsOf n ++ rest = text
  rw [hds, List.cons_append] at htext
  unfold unsigned?
  split
  · next c tail =>
    obtain ⟨rfl, htail⟩ := List.cons.inj htext
    rw [eq_nil_of_digitsOf_eq_zero_cons hds, List.nil_append] at htail
    have hc : isDigit c = false := hrest.isDigit_eq_false c (by rw [htail]; rfl)
    rw [if_neg (by rw [hc]; exact Bool.false_ne_true)]
  · next c tail _ =>
    obtain ⟨rfl, -⟩ := List.cons.inj htext
    rw [if_pos hd]
  · cases htext

theorem takeDigits_digitsOf (hrest : Stops rest) (hn : n < UInt64.size) :
    takeDigits 0 0 (digitsOf n ++ rest) = (n, (digitsOf n).length, rest, false) := by
  have hvalue : 0 * 10 ^ (digitsOf n).length + ofDigits (digitsOf n) = n := by
    rw [Nat.zero_mul, Nat.zero_add, ofDigits_digitsOf]
  rw [takeDigits_append (fun _ hc => isDigit_of_mem_digitsOf hc) hrest.isDigit_eq_false 0
    (hvalue.symm ▸ hn), hvalue, Nat.zero_add]

/-- The digits of a number are read as that number with the sign before them. -/
theorem unsigned?_digitsOf (negative : Bool) (hrest : Stops rest)
    (hzero : negative = true → n ≠ 0) (hn : IsWide (if negative then -n else n)) :
    unsigned? negative (digitsOf n ++ rest) =
      some (.integer (if negative then -n else n), rest) := by
  have hlow : Int64.minValue.toInt = -9223372036854775808 := rfl
  have hhigh : UInt64.size = 18446744073709551616 := rfl
  rw [IsWide, hlow, hhigh] at hn
  have hfits : n < UInt64.size := by
    rw [hhigh]
    cases negative <;> simp at hn <;> omega
  have hsigned : (if negative then
      if n = 0 || decide (-(n : Int) < Int64.minValue.toInt) then
        some (.double (-n.toUInt64.toFloat), rest)
      else some (.integer (-(n : Int)), rest)
    else some (.integer n, rest)) = some (Json.integer (if negative then -n else n), rest) := by
    cases negative with
    | false => rfl
    | true =>
      have hwithin : ¬ (decide (n = 0) || decide (-(n : Int) < Int64.minValue.toInt)) = true := by
        simp only [hlow, Bool.or_eq_true, decide_eq_true_iff, hzero rfl, false_or, Int.not_lt]
        exact hn.1
      rw [if_pos rfl, if_neg hwithin, if_pos rfl]
  rw [unsigned?_eq_go negative hrest, ← hsigned, unsigned?.go, takeDigits_digitsOf hrest hfits]
  cases rest with
  | nil => rfl
  | cons c cs => rcases hrest c rfl with rfl | rfl | rfl <;> rfl

end

end SqlGateway.Json
