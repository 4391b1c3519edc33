import SqlGateway.Number.DecimalText
import SqlGateway.Proofs.Text.Digits

/-! What a decimal is written as is read as that decimal, with its scale: the digits before and
behind the point are those of the mantissa, and no more of them stand behind it than are kept. -/

namespace SqlGateway.Decimal

namespace Reading

/-- What has been read after one more digit. -/
def next (r : Reading) (c : Char) : Reading :=
  ⟨10 * r.mantissa + digitValue c, if r.point then r.scale + 1 else r.scale, r.point, true⟩

/-- What has been read after more digits. -/
def readDigits (r : Reading) (ds : List Char) : Reading :=
  ⟨r.mantissa * 10 ^ ds.length + ofDigits ds,
    if r.point then r.scale + ds.length else r.scale, r.point, r.digit || !ds.isEmpty⟩

variable {r : Reading} {c : Char} {cs ds : List Char}

theorem readDigits_nil : r.readDigits [] = r := by
  obtain ⟨m, scale, _ | _, digit⟩ := r <;> simp [readDigits, ofDigits]

theorem readDigits_cons : r.readDigits (c :: cs) = (r.next c).readDigits cs := by
  have hmantissa : (r.readDigits (c :: cs)).mantissa = ((r.next c).readDigits cs).mantissa :=
    shift_ofDigits_cons _ _ _
  have hscale : (r.readDigits (c :: cs)).scale = ((r.next c).readDigits cs).scale := by
    simp only [readDigits, next, List.length_cons]
    split <;> omega
  have hdigit : (r.readDigits (c :: cs)).digit = ((r.next c).readDigits cs).digit :=
    Bool.or_true _
  rw [readDigits, readDigits]
  exact mk.injEq .. ▸ ⟨hmantissa, hscale, rfl, hdigit⟩

theorem scale_next (h : r.point = true) : (r.next c).scale = r.scale + 1 := if_pos h

theorem le_mantissa_readDigits : r.mantissa ≤ (r.readDigits ds).mantissa :=
  le_shift_ofDigits _ _

theorem run?_point {m scale : Nat} {digit : Bool} :
    (⟨m, scale, false, digit⟩ : Reading).run? ('.' :: cs) =
      (⟨m, scale, true, digit⟩ : Reading).run? cs := by
  cases cs <;> rfl

/-- A digit is read as long as another one behind the point would be kept or none follows. -/
theorem run?_digit (hc : isDigit c = true) (hroom : (r.next c).mantissa < room)
    (hkept : r.point = true → cs = [] ∨ r.scale + 1 < maxScale) :
    r.run? (c :: cs) = (r.next c).run? cs := by
  have hrun : r.run? (c :: cs) =
      if isDigit c then
        if room ≤ (r.next c).mantissa then if r.point then r.roundBy? c cs else none
        else if (r.next c).point && maxScale ≤ (r.next c).scale then
          match cs with
          | [] => (r.next c).finish?
          | d :: rest =>
            if d = '_' && decide (wideMantissa ≤ r.mantissa) then (r.next c).run? rest
            else (r.next c).roundBy? d rest
        else (r.next c).run? cs
      else if c = '.' && !r.point then (⟨r.mantissa, r.scale, true, r.digit⟩ : Reading).run? cs
      else if c = '_' && r.digit then r.run? cs
      else none := by
    cases cs <;> rfl
  rw [hrun, if_pos hc, if_neg (Nat.not_le.mpr hroom)]
  split
  · next hlast =>
    rw [Bool.and_eq_true, decide_eq_true_iff] at hlast
    have hpoint : r.point = true := hlast.1
    have hscale : maxScale ≤ r.scale + 1 := scale_next hpoint ▸ hlast.2
    rcases hkept hpoint with rfl | hlt
    · rfl
    · exact absurd hscale (Nat.not_le.mpr hlt)
  · rfl

/-- Digits are read into the mantissa, and those behind the point counted. -/
theorem run?_digits (hds : ∀ c ∈ ds, isDigit c = true)
    (hroom : (r.readDigits ds).mantissa < room) (rest : List Char)
    (hkept : r.point = true → rest = [] ∧ r.scale + ds.length ≤ maxScale) :
    r.run? (ds ++ rest) = (r.readDigits ds).run? rest := by
  induction ds generalizing r with
  | nil => rw [readDigits_nil, List.nil_append]
  | cons c cs ih =>
    rw [List.forall_mem_cons] at hds
    rw [readDigits_cons] at hroom ⊢
    have hstep : r.run? (c :: (cs ++ rest)) = (r.next c).run? (cs ++ rest) :=
      run?_digit hds.1 (Nat.lt_of_le_of_lt le_mantissa_readDigits hroom) fun hpoint => by
        obtain ⟨rfl, hle⟩ := hkept hpoint
        rw [List.length_cons] at hle
        rcases cs with _ | ⟨d, ds⟩
        · exact .inl rfl
        · rw [List.length_cons] at hle
          exact .inr (by omega)
    rw [List.cons_append, hstep]
    exact ih hds.2 hroom fun hpoint => by
      obtain ⟨hrest, hle⟩ := hkept hpoint
      rw [List.length_cons] at hle
      rw [scale_next (show r.point = true from hpoint)]
      exact ⟨hrest, by omega⟩

/-- Digits at the front are read into the mantissa. -/
theorem run?_whole (hds : ∀ c ∈ ds, isDigit c = true) (hroom : ofDigits ds < room)
    (rest : List Char) : (⟨0, 0, false, false⟩ : Reading).run? (ds ++ rest) =
      (⟨ofDigits ds, 0, false, !ds.isEmpty⟩ : Reading).run? rest := by
  have hread : (⟨0, 0, false, false⟩ : Reading).readDigits ds =
      ⟨ofDigits ds, 0, false, !ds.isEmpty⟩ := by
    rw [readDigits, Nat.zero_mul, Nat.zero_add]
    rfl
  rw [run?_digits (r := ⟨0, 0, false, false⟩) hds (by rwa [hread]) rest nofun, hread]

end Reading

variable (d : Decimal)

/-- The digits of a mantissa, at least one of them before the point. -/
def digits : List Char := paddedDigits (d.scale + 1) d.mantissa.natAbs

/-- The number of digits before the point. -/
def wholeDigits : Nat := d.digits.length - d.scale

/-- The text of a decimal without its sign. -/
def body : List Char :=
  if d.scale = 0 then d.digits
  else d.digits.take d.wholeDigits ++ '.' :: d.digits.drop d.wholeDigits

theorem isDigit_of_mem_digits {d : Decimal} {c : Char} (h : c ∈ d.digits) : isDigit c = true :=
  isDigit_of_mem_paddedDigits h

theorem ofDigits_digits : ofDigits d.digits = d.mantissa.natAbs := ofDigits_paddedDigits _ _

theorem scale_lt_length : d.scale < d.digits.length := le_length_paddedDigits _ _

/-- The digits before the point. -/
def whole : List Char := d.digits.take d.wholeDigits

/-- The digits behind the point. -/
def fraction : List Char := d.digits.drop d.wholeDigits

theorem length_fraction : d.fraction.length = d.scale := by
  have hlength := d.scale_lt_length
  rw [fraction, List.length_drop, wholeDigits]
  omega

theorem ofDigits_whole_fraction :
    ofDigits d.whole * 10 ^ d.scale + ofDigits d.fraction = d.mantissa.natAbs := by
  rw [← length_fraction, ← ofDigits_append, whole, fraction, List.take_append_drop, ofDigits_digits]

theorem run?_fraction (hscale : d.scale ≠ 0) (digit : Bool) :
    (⟨ofDigits d.whole, 0, true, digit⟩ : Reading).run? d.fraction =
      some (d.mantissa.natAbs, d.scale) := by
  have hne : d.fraction.isEmpty = false := by
    rw [List.isEmpty_eq_false_iff, ← List.length_pos_iff, length_fraction]
    omega
  have hread : (⟨ofDigits d.whole, 0, true, digit⟩ : Reading).readDigits d.fraction =
      ⟨d.mantissa.natAbs, d.scale, true, true⟩ := by
    simp [Reading.readDigits, length_fraction, ofDigits_whole_fraction, hne]
  have hkept : 0 + d.fraction.length ≤ maxScale := by
    rw [length_fraction, Nat.zero_add]
    exact d.scale_le
  have hdigits : ∀ c ∈ d.fraction, isDigit c = true :=
    fun _ hc => isDigit_of_mem_digits (List.mem_of_mem_drop hc)
  have hrun := Reading.run?_digits hdigits (by rw [hread]; exact d.mantissa_lt) [] fun _ =>
    ⟨rfl, hkept⟩
  rw [List.append_nil, hread] at hrun
  exact hrun

theorem run?_body :
    (⟨0, 0, false, false⟩ : Reading).run? d.body = some (d.mantissa.natAbs, d.scale) := by
  have hroom : d.mantissa.natAbs < room := d.mantissa_lt
  rw [body]
  split
  · next hscale =>
    have hne : d.digits.isEmpty = false :=
      List.isEmpty_eq_false_iff.mpr (paddedDigits_ne_nil _ _)
    rw [← List.append_nil d.digits, Reading.run?_whole (fun _ hc => isDigit_of_mem_digits hc)
      (by rwa [ofDigits_digits]), hne, ofDigits_digits, hscale]
    rfl
  · next hscale =>
    have hle : ofDigits d.whole ≤ d.mantissa.natAbs := by
      rw [← ofDigits_whole_fraction, ← length_fraction]
      exact le_shift_ofDigits _ _
    have hdigits : ∀ c ∈ d.whole, isDigit c = true :=
      fun _ hc => isDigit_of_mem_digits (List.mem_of_mem_take hc)
    rw [← whole, ← fraction, Reading.run?_whole hdigits (Nat.lt_of_le_of_lt hle hroom),
      Reading.run?_point, d.run?_fraction hscale]

theorem exists_body_eq_cons : ∃ c cs, d.body = c :: cs ∧ isDigit c = true := by
  have hlength := d.scale_lt_length
  obtain ⟨c, cs, hdigits⟩ := List.exists_cons_of_length_pos (Nat.zero_lt_of_lt hlength)
  have hc : isDigit c = true := isDigit_of_mem_digits (hdigits ▸ List.mem_cons_self)
  have hwhole : d.wholeDigits = d.digits.length - d.scale - 1 + 1 := by
    rw [wholeDigits]
    omega
  rw [body]
  split
  · exact ⟨c, cs, hdigits, hc⟩
  · rw [hwhole, hdigits, List.take_succ_cons]
    exact ⟨c, _, rfl, hc⟩

theorem ofPlain?_toChars : ofPlain? d.toChars = some d := by
  have hscale : d.scale % (maxScale + 1) = d.scale :=
    Nat.mod_eq_of_lt (Nat.lt_succ_of_le d.scale_le)
  have htext : d.toChars = if d.mantissa < 0 then '-' :: d.body else d.body := rfl
  by_cases hnegative : d.mantissa < 0
  · have hmantissa : -(d.mantissa.natAbs : Int) = d.mantissa := by omega
    rw [htext, if_pos hnegative, ofPlain?]
    simp only [run?_body, Option.bind_eq_bind, Option.bind_some, hscale, if_true, hmantissa,
      ofParts?_mantissa_scale]
  · have hmantissa : (d.mantissa.natAbs : Int) = d.mantissa := by omega
    obtain ⟨c, cs, hbody, hc⟩ := d.exists_body_eq_cons
    have hread := d.run?_body
    rw [hbody] at hread
    rw [htext, if_neg hnegative, hbody, ofPlain?]
    · simp only [hread, Option.bind_eq_bind, Option.bind_some, hscale, Bool.false_eq_true, if_false,
        hmantissa, ofParts?_mantissa_scale]
    · rintro r heq
      cases heq
      cases hc
    · rintro r heq
      cases heq
      cases hc

/-- What a decimal is written as is read as that decimal, with its scale. -/
theorem ofText?_text : ofText? d.text = some d := by
  rw [ofText?, text, String.toList_ofList, ofChars?, ofPlain?_toChars]
  rfl

end SqlGateway.Decimal
