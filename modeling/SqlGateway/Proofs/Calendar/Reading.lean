import SqlGateway.Calendar.Reading
import SqlGateway.Proofs.Text.Digits

/-! The readers of dates and times: what each takes off the front of a text, and that each takes
what is written there. -/

namespace SqlGateway.Calendar

theorem isBlank_of_isDigit {c : Char} (h : isDigit c = true) : isBlank c = false := by
  rw [isDigit_iff] at h
  simp only [isBlank, Bool.or_eq_false_iff, Bool.and_eq_false_iff, decide_eq_false_iff_not,
    beq_eq_false_iff_ne]
  omega

theorem dropBlanks_of_head {cs : List Char} (h : ∀ c ∈ cs.head?, isBlank c = false) :
    dropBlanks cs = cs := by
  cases cs with
  | nil => rfl
  | cons c cs =>
    refine List.dropWhile_cons_of_neg ?_
    rw [h c rfl]
    exact Bool.false_ne_true

/-! ### Numbers -/

section

variable {width n : Nat} {rest : List Char}

/-- A number is as many of the digits there as it may have. -/
theorem number?_digits {ds : List Char} (hne : ds ≠ []) (hds : ∀ c ∈ ds, isDigit c = true)
    (hwidth : ds.length ≤ width)
    (hrest : ds.length = width ∨ ∀ c ∈ rest.head?, isDigit c = false) :
    number? width (ds ++ rest) = some (ofDigits ds, rest) := by
  have hdrop : dropBlanks (ds ++ rest) = ds ++ rest := by
    obtain ⟨c, cs, rfl⟩ := List.exists_cons_of_ne_nil hne
    refine dropBlanks_of_head fun d hd => isBlank_of_isDigit ?_
    exact Option.mem_some_iff.mp hd ▸ hds c List.mem_cons_self
  have htake : ((ds ++ rest).takeWhile isDigit).take width = ds := by
    rw [List.takeWhile_append_of_pos hds]
    rcases hrest with hlength | hrest
    · rw [← hlength, List.take_left]
    · have hnone : rest.takeWhile isDigit = [] := by
        cases rest with
        | nil => rfl
        | cons c cs =>
          refine List.takeWhile_cons_of_neg ?_
          rw [hrest c rfl]
          exact Bool.false_ne_true
      rw [hnone, List.append_nil, List.take_of_length_le hwidth]
  rw [number?, hdrop, htake, if_neg (by simpa using hne), List.drop_left]

theorem number?_paddedDigits (hwidth : 0 < width) (hn : n < 10 ^ width) (rest : List Char) :
    number? width (paddedDigits width n ++ rest) = some (n, rest) := by
  have hlength := length_paddedDigits hwidth hn
  rw [number?_digits (paddedDigits_ne_nil width n) (fun c hc => isDigit_of_mem_paddedDigits hc)
    (Nat.le_of_eq hlength) (.inl hlength), ofDigits_paddedDigits]

end

/-! ### Separators -/

theorem separator?_cons {c : Char} (h : isBlank c = false) (cs : List Char) :
    separator? c (c :: cs) = some ((), cs) := by
  have hdrop : dropBlanks (c :: cs) = c :: cs :=
    dropBlanks_of_head fun d hd => Option.mem_some_iff.mp hd ▸ h
  rw [separator?, hdrop]
  exact if_pos rfl

theorem literal?_cons (c : Char) (cs : List Char) : literal? c (c :: cs) = some ((), cs) := if_pos rfl

theorem eq_cons_of_literal? {c : Char} {cs rest : List Char} (h : literal? c cs = some ((), rest)) :
    cs = c :: rest := by
  cases cs with
  | nil => cases h
  | cons d cs =>
    rw [literal?] at h
    split at h
    · next hd =>
      cases h
      rw [hd]
    · cases h

/-! ### Fractions -/

/-- The digits of a fraction behind their point, which is left out if there are none. -/
def pointed : List Char → List Char
  | [] => []
  | d :: ds => '.' :: d :: ds

/-- The nanoseconds that the digits of a fraction stand for. -/
def nanosOf (ds : List Char) : Nat := ofDigits ds * 10 ^ (9 - ds.length)

section

variable {ds : List Char}

theorem nanosOf_lt (hds : ∀ c ∈ ds, isDigit c = true) (hlength : ds.length ≤ 9) :
    nanosOf ds < 1000000000 := by
  calc nanosOf ds
    _ < 10 ^ ds.length * 10 ^ (9 - ds.length) :=
      Nat.mul_lt_mul_of_pos_right (ofDigits_lt hds) (Nat.pow_pos (by decide))
    _ = 10 ^ 9 := by rw [← Nat.pow_add, Nat.add_sub_cancel' hlength]

/-- The digits of a fraction, of which the first nine count. -/
theorem fraction?_pointed (hds : ∀ c ∈ ds, isDigit c = true) (hlength : ds.length ≤ 9) :
    fraction? (pointed ds) = some (nanosOf ds, []) := by
  cases ds with
  | nil => rfl
  | cons d ds =>
    have hspan : spanDigits (d :: ds ++ []) = (d :: ds, []) := spanDigits_append hds nofun
    rw [List.append_nil] at hspan
    rw [pointed, fraction?, hspan]
    dsimp only
    rw [List.take_of_length_le hlength]
    rfl

theorem fraction?_of_ne_point {c : Char} (h : c ≠ '.') (cs : List Char) :
    fraction? (c :: cs) = some (0, c :: cs) :=
  fraction?.eq_2 (c :: cs) fun _ heq => h (List.cons.inj heq).1

/-- Up to nine characters behind a point are a fraction only if they are digits. -/
theorem forall_isDigit_of_fraction? {n : Nat} (h : fraction? (pointed ds) = some (n, [])) :
    ∀ c ∈ ds, isDigit c = true := by
  cases ds with
  | nil => exact nofun
  | cons d ds =>
    rw [pointed, fraction?] at h
    dsimp only [spanDigits] at h
    split at h
    · cases h
    · have hnone : (d :: ds).dropWhile isDigit = [] := (Prod.mk.inj (Option.some.inj h)).2
      have hall := List.takeWhile_append_dropWhile (p := isDigit) (l := d :: ds)
      rw [hnone, List.append_nil] at hall
      exact List.all_eq_true.mp (hall ▸ List.all_takeWhile)

/-- A fraction is written in digits that stand for it. -/
theorem exists_digits_of_fractionChars {nano : Nat} (h : nano < 1000000000) :
    ∃ ds, TimeOfDay.fractionChars nano = pointed ds ∧ ds.length ≤ 9 ∧
      (∀ c ∈ ds, isDigit c = true) ∧ nanosOf ds = nano := by
  have hdigits {width n : Nat} (hwidth : 0 < width ∧ width ≤ 9) (hn : n < 10 ^ width)
      (hnano : n * 10 ^ (9 - width) = nano) : ∃ ds, '.' :: paddedDigits width n = pointed ds ∧
      ds.length ≤ 9 ∧ (∀ c ∈ ds, isDigit c = true) ∧ nanosOf ds = nano := by
    have hlength := length_paddedDigits hwidth.1 hn
    refine ⟨paddedDigits width n, ?_, by rw [hlength]; exact hwidth.2,
      fun c hc => isDigit_of_mem_paddedDigits hc, ?_⟩
    · obtain ⟨c, cs, hcons⟩ := List.exists_cons_of_ne_nil (paddedDigits_ne_nil width n)
      rw [hcons, pointed]
    · rw [nanosOf, ofDigits_paddedDigits, hlength, hnano]
  rw [TimeOfDay.fractionChars]
  split
  · next hzero => exact ⟨[], rfl, Nat.zero_le 9, nofun, hzero.symm⟩
  split
  · exact hdigits (by decide) (by omega) (by omega)
  split
  · exact hdigits (by decide) (by omega) (by omega)
  · exact hdigits (by decide) (by omega) (by omega)

theorem fraction?_fractionChars {nano : Nat} (h : nano < 1000000000) :
    fraction? (TimeOfDay.fractionChars nano) = some (nano, []) := by
  obtain ⟨ds, hchars, hlength, hds, hnano⟩ := exists_digits_of_fractionChars h
  rw [hchars, fraction?_pointed hds hlength, hnano]

end

end SqlGateway.Calendar
