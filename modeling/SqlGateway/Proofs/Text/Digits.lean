import SqlGateway.Text.Digits

/-! Digits that are written and read again. -/

namespace SqlGateway

theorem ofDigits_eq (ds : List Char) : ofDigits ds = Nat.ofDigitChars 10 ds 0 :=
  Nat.ofDigitChars_eq_foldl.symm

theorem isDigit_iff {c : Char} : isDigit c = true ↔ 48 ≤ c.toNat ∧ c.toNat ≤ 57 := by
  rw [isDigit, Bool.and_eq_true, decide_eq_true_iff, decide_eq_true_iff]
  exact Iff.rfl

theorem digitValue_lt {c : Char} (h : isDigit c = true) : digitValue c < 10 := by
  rw [isDigit_iff] at h
  rw [digitValue, show '0'.toNat = 48 from rfl]
  omega

theorem ofDigits_cons (c : Char) (cs : List Char) :
    ofDigits (c :: cs) = digitValue c * 10 ^ cs.length + ofDigits cs := by
  rw [ofDigits_eq, ofDigits_eq, Nat.ofDigitChars_cons, Nat.ofDigitChars_eq_ofDigitChars_zero,
    Nat.mul_zero, Nat.zero_add, Nat.mul_comm]
  rfl

/-- A digit more is ten times what stands before it and the digit. -/
theorem shift_ofDigits_cons (n : Nat) (c : Char) (cs : List Char) :
    n * 10 ^ (c :: cs).length + ofDigits (c :: cs) =
      (10 * n + digitValue c) * 10 ^ cs.length + ofDigits cs := by
  rw [ofDigits_cons, List.length_cons, Nat.pow_succ, Nat.add_mul, Nat.add_assoc, Nat.mul_comm 10,
    Nat.mul_assoc, Nat.mul_comm 10]

theorem le_shift_ofDigits (n : Nat) (ds : List Char) : n ≤ n * 10 ^ ds.length + ofDigits ds :=
  Nat.le_trans (Nat.le_mul_of_pos_right n (Nat.pow_pos (by decide))) (Nat.le_add_right _ _)

theorem ofDigits_append (cs ds : List Char) :
    ofDigits (cs ++ ds) = ofDigits cs * 10 ^ ds.length + ofDigits ds := by
  rw [ofDigits_eq, ofDigits_eq, ofDigits_eq, Nat.ofDigitChars_append,
    Nat.ofDigitChars_eq_ofDigitChars_zero, Nat.mul_comm]

theorem ofDigits_lt {ds : List Char} (h : ∀ c ∈ ds, isDigit c = true) :
    ofDigits ds < 10 ^ ds.length := by
  induction ds with
  | nil => exact Nat.zero_lt_one
  | cons c cs ih =>
    have hc := digitValue_lt (h c List.mem_cons_self)
    have hcs := ih fun d hd => h d (List.mem_cons_of_mem c hd)
    rw [ofDigits_cons, List.length_cons, Nat.pow_succ]
    calc digitValue c * 10 ^ cs.length + ofDigits cs
      _ < digitValue c * 10 ^ cs.length + 10 ^ cs.length := Nat.add_lt_add_left hcs _
      _ = (digitValue c + 1) * 10 ^ cs.length := (Nat.succ_mul _ _).symm
      _ ≤ 10 * 10 ^ cs.length := Nat.mul_le_mul_right _ hc
      _ = 10 ^ cs.length * 10 := Nat.mul_comm _ _

/-- As many digits that stand for the same number are the same. -/
theorem eq_of_ofDigits {ds es : List Char} (hds : ∀ c ∈ ds, isDigit c = true)
    (hes : ∀ c ∈ es, isDigit c = true) (hlength : ds.length = es.length)
    (h : ofDigits ds = ofDigits es) : ds = es := by
  induction ds generalizing es with
  | nil => exact (List.length_eq_zero_iff.mp hlength.symm).symm
  | cons c cs ih =>
    obtain _ | ⟨d, ds⟩ := es
    · cases hlength
    have hcs : ∀ x ∈ cs, isDigit x = true := fun x hx => hds x (List.mem_cons_of_mem c hx)
    have hds' : ∀ x ∈ ds, isDigit x = true := fun x hx => hes x (List.mem_cons_of_mem d hx)
    have hsame : cs.length = ds.length := Nat.succ.inj hlength
    have hlt := ofDigits_lt hcs
    have hlt' := ofDigits_lt hds'
    rw [ofDigits_cons, ofDigits_cons, hsame, Nat.mul_comm, Nat.mul_comm (digitValue d)] at h
    rw [hsame] at hlt
    have hvalue : digitValue c = digitValue d := by
      have := congrArg (· / 10 ^ ds.length) h
      simpa [Nat.mul_add_div (Nat.pow_pos (show 0 < 10 by decide)), Nat.div_eq_of_lt hlt,
        Nat.div_eq_of_lt hlt'] using this
    rw [hvalue, Nat.add_left_cancel_iff] at h
    have hchar : c = d := by
      have hc := isDigit_iff.mp (hds c List.mem_cons_self)
      have hd := isDigit_iff.mp (hes d List.mem_cons_self)
      rw [digitValue, digitValue, show '0'.toNat = 48 from rfl] at hvalue
      exact Char.toNat_inj.mp (by omega)
    rw [hchar, ih hcs hds' hsame h]

theorem spanDigits_append {ds rest : List Char} (hds : ∀ c ∈ ds, isDigit c = true)
    (hrest : ∀ c ∈ rest.head?, isDigit c = false) : spanDigits (ds ++ rest) = (ds, rest) := by
  have htake : rest.takeWhile isDigit = [] ∧ rest.dropWhile isDigit = rest := by
    cases rest with
    | nil => exact ⟨rfl, rfl⟩
    | cons c cs =>
      have hc : ¬ isDigit c = true := by rw [hrest c rfl]; exact Bool.false_ne_true
      exact ⟨List.takeWhile_cons_of_neg hc, List.dropWhile_cons_of_neg hc⟩
  rw [spanDigits, List.takeWhile_append_of_pos hds, List.dropWhile_append_of_pos hds, htake.1,
    htake.2, List.append_nil]

theorem ofDigits_paddedDigits (width n : Nat) : ofDigits (paddedDigits width n) = n := by
  rw [ofDigits_eq, paddedDigits, Nat.ofDigitChars_append, Nat.ofDigitChars_replicate_zero,
    Nat.mul_zero, digitsOf, Nat.ofDigitChars_ten_toDigits]

theorem length_paddedDigits {width n : Nat} (hwidth : 0 < width) (hn : n < 10 ^ width) :
    (paddedDigits width n).length = width := by
  have hdigits : (digitsOf n).length ≤ width :=
    (Nat.length_toDigits_le_iff (by decide) hwidth).mpr hn
  rw [paddedDigits, List.length_append, List.length_replicate]
  omega

theorem le_length_paddedDigits (width n : Nat) : width ≤ (paddedDigits width n).length := by
  rw [paddedDigits, List.length_append, List.length_replicate]
  omega

theorem paddedDigits_ne_nil (width n : Nat) : paddedDigits width n ≠ [] :=
  List.append_ne_nil_of_right_ne_nil _ Nat.toDigits_ne_nil

theorem paddedDigits_zero (n : Nat) : paddedDigits 0 n = digitsOf n := by
  rw [paddedDigits, Nat.zero_sub]
  rfl

theorem ofDigits_digitsOf (n : Nat) : ofDigits (digitsOf n) = n :=
  paddedDigits_zero n ▸ ofDigits_paddedDigits 0 n

theorem isDigit_of_mem_paddedDigits {width n : Nat} {c : Char} (hc : c ∈ paddedDigits width n) :
    isDigit c = true := by
  rcases List.mem_append.mp hc with hc | hc
  · rw [(List.mem_replicate.mp hc).2]
    decide
  · have hdigit := Nat.isDigit_of_mem_toDigits (by decide) (by decide) hc
    rw [Char.isDigit, Bool.and_eq_true, decide_eq_true_iff, decide_eq_true_iff] at hdigit
    rw [isDigit, Bool.and_eq_true, decide_eq_true_iff, decide_eq_true_iff]
    exact hdigit

theorem isDigit_of_mem_digitsOf {n : Nat} {c : Char} (hc : c ∈ digitsOf n) : isDigit c = true :=
  isDigit_of_mem_paddedDigits (paddedDigits_zero n ▸ hc)

/-- Only zero is written with a zero in front. -/
theorem eq_nil_of_digitsOf_eq_zero_cons {n : Nat} {ds : List Char} (h : digitsOf n = '0' :: ds) :
    ds = [] := by
  by_cases hne : ds.length = 0
  · exact List.length_eq_zero_iff.mp hne
  have hds : ∀ c ∈ ds, isDigit c = true := fun c hc =>
    isDigit_of_mem_digitsOf (h ▸ List.mem_cons_of_mem '0' hc)
  have hn : n < 10 ^ ds.length := by
    have hvalue := ofDigits_digitsOf n
    rw [h, ofDigits_cons, show digitValue '0' = 0 from rfl, Nat.zero_mul, Nat.zero_add] at hvalue
    exact hvalue ▸ ofDigits_lt hds
  have hlength : (digitsOf n).length ≤ ds.length :=
    (Nat.length_toDigits_le_iff (by decide) (Nat.pos_of_ne_zero hne)).mpr hn
  rw [h, List.length_cons] at hlength
  omega

/-- Digits are those of the number that they stand for. -/
theorem paddedDigits_ofDigits {ds : List Char} (hne : ds ≠ []) (hds : ∀ c ∈ ds, isDigit c = true) :
    paddedDigits ds.length (ofDigits ds) = ds :=
  eq_of_ofDigits (fun _ hc => isDigit_of_mem_paddedDigits hc) hds
    (length_paddedDigits (List.length_pos_iff.mpr hne) (ofDigits_lt hds))
    (ofDigits_paddedDigits _ _)

/-- Two digits stand for a number below a hundred. -/
theorem exists_paddedDigits_two {n : Nat} (hn : n < 100) :
    ∃ a b, paddedDigits 2 n = [a, b] ∧ isDigit a = true ∧ isDigit b = true ∧ ofDigits [a, b] = n := by
  obtain ⟨a, b, hab⟩ : ∃ a b, paddedDigits 2 n = [a, b] := by
    have hlength : (paddedDigits 2 n).length = 2 := length_paddedDigits (by decide) hn
    match paddedDigits 2 n, hlength with
    | [a, b], _ => exact ⟨a, b, rfl⟩
  have hdigit (c : Char) (hc : c ∈ [a, b]) : isDigit c = true :=
    isDigit_of_mem_paddedDigits (hab ▸ hc)
  refine ⟨a, b, hab, hdigit a (by simp), hdigit b (by simp), ?_⟩
  rw [← hab, ofDigits_paddedDigits]

end SqlGateway
