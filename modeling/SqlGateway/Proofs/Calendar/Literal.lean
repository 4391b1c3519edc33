import SqlGateway.Calendar.Reading
import SqlGateway.Proofs.Calendar.Reading
import SqlGateway.Proofs.Pattern.Matching

/-! Time literals are the texts `HH:MM:SS` with a fraction of at most nine digits, in ASCII digits.
The pattern alone takes digits of other scripts too, and the reading alone takes a 60th second and
numbers of one digit; each rules out what the other lets through. -/

namespace SqlGateway

/-! ### Sets of digits -/

namespace CharSet

theorem has_digitsTo {last c : Char} (h : '0' ≤ last) :
    (digitsTo last).has c = true ↔ '0' ≤ c ∧ c ≤ last := by
  have hle : 48 ≤ last.toNat := h
  change _ ↔ 48 ≤ c.toNat ∧ c.toNat ≤ last.toNat
  rw [has, hasCode, digitsTo, hasFrom, hasFrom, hasFrom, show '0'.toNat = 48 from rfl]
  split
  · simp; omega
  · split <;> simp <;> omega

/-- Below the digits of other scripts stand those of ASCII. -/
theorem has_decimalDigits {c : Char} (h : c.toNat < 0x660) : decimalDigits.has c = isDigit c := by
  have hfirst : decimalDigits.edges.take 3 = [48, 58, 0x660] := by decide +kernel
  have hedges := List.take_append_drop 3 decimalDigits.edges
  rw [hfirst] at hedges
  rw [Bool.eq_iff_iff, isDigit_iff, has, hasCode, ← hedges,
    List.cons_append, List.cons_append, List.cons_append, hasFrom, hasFrom, hasFrom]
  split
  · simp; omega
  · split
    · simp; omega
    · simp; omega

theorem has_decimalDigits_of_isDigit {c : Char} (h : isDigit c = true) :
    decimalDigits.has c = true := by
  have hc := isDigit_iff.mp h
  rw [has_decimalDigits (by omega), h]

end CharSet

namespace Pattern

variable {s : List Char} {set : CharSet} {i j : Nat}

/-! ### Characters that a pattern takes off a text -/

theorem matches_chars_iff : Matches s.toArray (.chars set) i j ↔
    i + 1 = j ∧ ∃ c, set.has c = true ∧ s.drop i = c :: s.drop j := by
  constructor
  · rintro ⟨⟨c, hc, hset⟩, rfl⟩
    rw [List.getElem?_toArray, List.getElem?_eq_some_iff] at hc
    obtain ⟨hi, rfl⟩ := hc
    exact ⟨rfl, s[i], hset, List.drop_eq_getElem_cons hi⟩
  · rintro ⟨rfl, c, hset, hdrop⟩
    refine ⟨⟨c, ?_, hset⟩, rfl⟩
    rw [List.getElem?_toArray, ← List.head?_drop, hdrop]
    rfl

theorem inSteps_chars_iff {n : Nat} : InSteps (Matches s.toArray (.chars set)) n i j ↔
    i + n = j ∧ ∃ cs, cs.length = n ∧ (∀ c ∈ cs, set.has c = true) ∧ s.drop i = cs ++ s.drop j := by
  induction n generalizing i with
  | zero =>
    constructor
    · rintro rfl
      exact ⟨rfl, [], rfl, nofun, rfl⟩
    · exact fun h => h.1
  | succ n ih =>
    simp only [InSteps, matches_chars_iff, ih]
    constructor
    · rintro ⟨_, ⟨rfl, c, hc, hdrop⟩, rfl, cs, rfl, hcs, hdrop'⟩
      refine ⟨by omega, c :: cs, rfl, List.forall_mem_cons.mpr ⟨hc, hcs⟩, ?_⟩
      rw [hdrop, hdrop', List.cons_append]
    · rintro ⟨rfl, _ | ⟨c, cs⟩, hlength, hcs, hdrop⟩
      · cases hlength
      rw [List.forall_mem_cons] at hcs
      have hnext : s.drop (i + 1) = cs ++ s.drop (i + (n + 1)) := by
        rw [← List.drop_drop, hdrop, List.cons_append, List.drop_one, List.tail_cons]
      refine ⟨i + 1, ⟨rfl, c, hcs.1, ?_⟩, by omega, cs, Nat.succ.inj hlength, hcs.2, hnext⟩
      rw [hnext, hdrop, List.cons_append]

end Pattern

namespace TimeOfDay

open Pattern

/-! ### What the pattern picks out -/

/-- Hours as the pattern writes them. -/
def HourForm (a b : Char) : Prop :=
  ((CharSet.digitsTo '1').has a = true ∧ CharSet.decimalDigits.has b = true) ∨
    (a = '2' ∧ (CharSet.digitsTo '3').has b = true)

/-- Minutes and seconds as the pattern writes them. -/
def SixtyForm (a b : Char) : Prop :=
  (CharSet.digitsTo '5').has a = true ∧ CharSet.decimalDigits.has b = true

/-- Fractions as the pattern writes them. -/
def FractionForm (cs : List Char) : Prop :=
  ∃ ds, cs = Calendar.pointed ds ∧ ds.length ≤ 9 ∧ ∀ d ∈ ds, CharSet.decimalDigits.has d = true

section

variable {cs : List Char} {i j : Nat}

theorem matches_hourPattern_iff : Matches cs.toArray hourPattern i j ↔
    i + 2 = j ∧ ∃ a b, HourForm a b ∧ cs.drop i = a :: b :: cs.drop j := by
  simp only [hourPattern, Matches.eq_def _ (.group _), Matches.eq_def _ (.alt _ _),
    Matches.eq_def _ (.seq _ _), matches_chars_iff, CharSet.has_single]
  constructor
  · rintro (⟨_, ⟨rfl, a, ha, hdrop⟩, rfl, b, hb, hdrop'⟩ | ⟨_, ⟨rfl, a, ha, hdrop⟩, rfl, b, hb, hdrop'⟩)
    · exact ⟨rfl, a, b, .inl ⟨ha, hb⟩, by rw [hdrop, hdrop']⟩
    · exact ⟨rfl, a, b, .inr ⟨ha, hb⟩, by rw [hdrop, hdrop']⟩
  · rintro ⟨rfl, a, b, hab, hdrop⟩
    have hnext : cs.drop (i + 1) = b :: cs.drop (i + 2) := by
      rw [← List.drop_drop, hdrop, List.drop_one, List.tail_cons]
    rcases hab with ⟨ha, hb⟩ | ⟨ha, hb⟩
    · exact .inl ⟨i + 1, ⟨rfl, a, ha, by rw [hnext, hdrop]⟩, rfl, b, hb, hnext⟩
    · exact .inr ⟨i + 1, ⟨rfl, a, ha, by rw [hnext, hdrop]⟩, rfl, b, hb, hnext⟩

/-- What an optional fraction takes, if the text ends behind it. -/
theorem matches_fractionPattern_iff (hi : i ≤ cs.length) :
    Matches cs.toArray fractionPattern i cs.length ↔ FractionForm (cs.drop i) := by
  have hnil : cs.drop cs.length = [] := List.drop_length
  simp only [fractionPattern, Matches.eq_def _ (.group _), Matches.eq_def _ (.repeated _ _ _),
    Matches.eq_def _ (.seq _ _), matches_chars_iff, inSteps_chars_iff, CharSet.has_single]
  constructor
  · rintro ⟨_ | _ | n, -, hn, hsteps⟩
    · rw [show i = cs.length from hsteps, hnil]
      exact ⟨[], rfl, Nat.zero_le 9, List.forall_mem_nil _⟩
    · obtain ⟨_, ⟨_, ⟨rfl, _, rfl, hdrop⟩, n, hleast, hmost, -, ds, rfl, hds, hdrop'⟩, rfl⟩ := hsteps
      rw [hnil, List.append_nil] at hdrop'
      obtain ⟨d, ds, rfl⟩ := List.exists_cons_of_length_pos hleast
      exact ⟨d :: ds, hdrop.trans (congrArg _ hdrop'), hmost 9 rfl, hds⟩
    · have := hn 1 rfl
      omega
  · rintro ⟨_ | ⟨d, ds⟩, hdrop, hlength, hds⟩
    · refine ⟨0, Nat.le_refl 0, fun m _ => Nat.zero_le _, ?_⟩
      exact Nat.le_antisymm hi (List.drop_eq_nil_iff.mp hdrop)
    · rw [Calendar.pointed] at hdrop
      have hnext : cs.drop (i + 1) = d :: ds := by
        rw [← List.drop_drop, hdrop, List.drop_one, List.tail_cons]
      have hend : i + 1 + (d :: ds).length = cs.length := by
        have := congrArg List.length hdrop
        rw [List.length_drop, List.length_cons] at this
        omega
      refine ⟨1, Nat.zero_le 1, fun m hm => ?_, cs.length, ⟨i + 1, ⟨rfl, '.', rfl, ?_⟩, _,
        Nat.succ_pos _, fun m hm => ?_, hend, d :: ds, rfl, hds, ?_⟩, rfl⟩
      · exact Option.mem_some_iff.mp hm ▸ Nat.le_refl 1
      · rw [hnext, hdrop]
      · exact Option.mem_some_iff.mp hm ▸ hlength
      · rw [hnil, hnext, List.append_nil]

end

/-- The texts that the pattern picks out. -/
theorem isIn_literalPattern_iff {s : String} : literalPattern.isIn s = true ↔
    ∃ h₁ h₂ m₁ m₂ s₁ s₂ rest,
      s.toList = h₁ :: h₂ :: ':' :: m₁ :: m₂ :: ':' :: s₁ :: s₂ :: rest ∧
      HourForm h₁ h₂ ∧ SixtyForm m₁ m₂ ∧ SixtyForm s₁ s₂ ∧ FractionForm rest := by
  rw [isIn_iff]
  simp only [literalPattern, Matches.eq_def _ (.seq _ _), Matches.eq_def _ (.anchor _),
    matches_hourPattern_iff, matches_chars_iff, CharSet.has_single, holdsAt, beq_iff_eq,
    List.size_toArray]
  constructor
  · rintro ⟨_, _, hi, _, ⟨rfl, rfl⟩, _, ⟨rfl, h₁, h₂, hhour, hdrop⟩, _, ⟨rfl, _, rfl, hdrop₁⟩,
      _, ⟨rfl, m₁, hm₁, hdrop₂⟩, _, ⟨rfl, m₂, hm₂, hdrop₃⟩, _, ⟨rfl, _, rfl, hdrop₄⟩,
      _, ⟨rfl, s₁, hs₁, hdrop₅⟩, _, ⟨rfl, s₂, hs₂, hdrop₆⟩, _, hfraction, rfl, rfl⟩
    have hle : 0 + 2 + 1 + 1 + 1 + 1 + 1 + 1 ≤ s.toList.length := by
      have := congrArg List.length hdrop₆
      rw [List.length_drop, List.length_cons] at this
      omega
    refine ⟨h₁, h₂, m₁, m₂, s₁, s₂, _, ?_, hhour, ⟨hm₁, hm₂⟩, ⟨hs₁, hs₂⟩,
      (matches_fractionPattern_iff hle).mp hfraction⟩
    rw [← hdrop₆, ← hdrop₅, ← hdrop₄, ← hdrop₃, ← hdrop₂, ← hdrop₁, ← hdrop, List.drop_zero]
  · rintro ⟨h₁, h₂, m₁, m₂, s₁, s₂, rest, hs, hhour, ⟨hm₁, hm₂⟩, ⟨hs₁, hs₂⟩, hrest⟩
    rw [hs]
    refine ⟨0, _, Nat.zero_le _, 0, ⟨rfl, rfl⟩, 2, ⟨rfl, h₁, h₂, hhour, rfl⟩, 3, ⟨rfl, _, rfl, rfl⟩,
      4, ⟨rfl, m₁, hm₁, rfl⟩, 5, ⟨rfl, m₂, hm₂, rfl⟩, 6, ⟨rfl, _, rfl, rfl⟩, 7, ⟨rfl, s₁, hs₁, rfl⟩,
      8, ⟨rfl, s₂, hs₂, rfl⟩, _, (matches_fractionPattern_iff ?_).mpr hrest, rfl, rfl⟩
    simp only [List.length_cons]
    omega

/-! ### What is read -/

section

variable {a b : Char} {cs : List Char}

/-- A second character that is no digit is not read. -/
theorem number?_two (ha : isDigit a = true) : Calendar.number? 2 (a :: b :: cs) =
    if isDigit b then some (ofDigits [a, b], cs) else some (ofDigits [a], b :: cs) := by
  split
  · next hb =>
    change Calendar.number? 2 ([a, b] ++ cs) = _
    rw [Calendar.number?_digits (List.cons_ne_nil a [b]) (by simp [ha, hb]) (Nat.le_refl 2) (.inl rfl)]
  · next hb =>
    have hstop : ∀ c ∈ (b :: cs).head?, isDigit c = false := fun c hc =>
      Option.mem_some_iff.mp hc ▸ Bool.eq_false_iff.mpr hb
    change Calendar.number? 2 ([a] ++ b :: cs) = _
    rw [Calendar.number?_digits (List.cons_ne_nil a []) (by simp [ha]) (Nat.le_succ 1) (.inr hstop)]

/-- A digit at the front of a number is followed by one if what ends the number follows. -/
theorem isDigit_of_number?_two {n : Nat} {rest : List Char} (ha : isDigit a = true)
    (h : Calendar.number? 2 (a :: b :: cs) = some (n, rest)) (hrest : rest ≠ b :: cs) :
    isDigit b = true ∧ ofDigits [a, b] = n ∧ rest = cs := by
  rw [number?_two ha] at h
  split at h
  · next hb =>
    cases h
    exact ⟨hb, rfl, rfl⟩
  · cases h
    exact absurd rfl hrest

theorem paddedDigits_two (ha : isDigit a = true) (hb : isDigit b = true) :
    paddedDigits 2 (ofDigits [a, b]) = [a, b] :=
  paddedDigits_ofDigits (List.cons_ne_nil a [b]) (by simp [ha, hb])

theorem ofDigits_two (a b : Char) : ofDigits [a, b] = 10 * digitValue a + digitValue b := by
  simp [ofDigits]

theorem hourForm_iff (hb : isDigit b = true) :
    HourForm a b ↔ isDigit a = true ∧ ofDigits [a, b] < 24 := by
  rw [HourForm, CharSet.has_digitsTo (by decide), CharSet.has_digitsTo (by decide),
    CharSet.has_decimalDigits_of_isDigit hb, eq_self, and_true, ofDigits_two, isDigit_iff,
    digitValue, digitValue, ← Char.toNat_inj, show '0'.toNat = 48 from rfl,
    show '2'.toNat = 50 from rfl]
  change (48 ≤ a.toNat ∧ a.toNat ≤ 49) ∨ (a.toNat = 50 ∧ 48 ≤ b.toNat ∧ b.toNat ≤ 51) ↔ _
  rw [isDigit_iff] at hb
  omega

theorem sixtyForm_iff (hb : isDigit b = true) :
    SixtyForm a b ↔ isDigit a = true ∧ ofDigits [a, b] < 60 := by
  rw [SixtyForm, CharSet.has_digitsTo (by decide), CharSet.has_decimalDigits_of_isDigit hb,
    eq_self, and_true, ofDigits_two, isDigit_iff, digitValue, digitValue,
    show '0'.toNat = 48 from rfl]
  change 48 ≤ a.toNat ∧ a.toNat ≤ 53 ↔ _
  rw [isDigit_iff] at hb
  omega

theorem isDigit_of_has_digitsTo {last : Char} (hlow : '0' ≤ last) (hhigh : last ≤ '9')
    (h : (CharSet.digitsTo last).has a = true) : isDigit a = true := by
  obtain ⟨hzero, hlast⟩ := (CharSet.has_digitsTo hlow).mp h
  exact isDigit_iff.mpr ⟨hzero, Nat.le_trans hlast hhigh⟩

theorem HourForm.isDigit_left (h : HourForm a b) : isDigit a = true := by
  rcases h with ⟨ha, -⟩ | ⟨rfl, -⟩
  · exact isDigit_of_has_digitsTo (by decide) (by decide) ha
  · rfl

theorem HourForm.has_right (h : HourForm a b) : CharSet.decimalDigits.has b = true := by
  rcases h with ⟨-, hb⟩ | ⟨-, hb⟩
  · exact hb
  · exact CharSet.has_decimalDigits_of_isDigit (isDigit_of_has_digitsTo (by decide) (by decide) hb)

theorem SixtyForm.isDigit_left (h : SixtyForm a b) : isDigit a = true :=
  isDigit_of_has_digitsTo (by decide) (by decide) h.1

/-- What ends a number is no digit of any script. -/
theorem ne_of_has_decimalDigits {c : Char} (hc : c = ':' ∨ c = '.')
    (h : CharSet.decimalDigits.has b = true) : b ≠ c := by
  rintro rfl
  have hdigit : isDigit b = false := by rcases hc with rfl | rfl <;> decide
  rw [CharSet.has_decimalDigits (by rcases hc with rfl | rfl <;> decide), hdigit] at h
  exact Bool.false_ne_true h

end

end TimeOfDay

/-! ### Clock readings -/

/-- A clock reading with the digits of its fraction, none if it has no fraction. -/
structure ClockText where
  hour : Nat
  minute : Nat
  second : Nat
  fraction : List Char
  hour_lt : hour < 24
  minute_lt : minute < 60
  second_lt : second < 60
  fraction_length : fraction.length ≤ 9
  fraction_isDigit : ∀ c ∈ fraction, isDigit c = true

namespace ClockText

/-- The text `HH:MM:SS` with the fraction behind a point. -/
def text (c : ClockText) : String :=
  String.ofList (paddedDigits 2 c.hour ++ ':' :: paddedDigits 2 c.minute
    ++ ':' :: paddedDigits 2 c.second ++ Calendar.pointed c.fraction)

/-- The time of day that a clock shows. -/
def time (c : ClockText) : TimeOfDay where
  second := 3600 * c.hour + 60 * c.minute + c.second
  nano := Calendar.nanosOf c.fraction
  second_lt := by have := c.hour_lt; have := c.minute_lt; have := c.second_lt; omega
  nano_lt := by have := Calendar.nanosOf_lt c.fraction_isDigit c.fraction_length; omega
  leap := by have := Calendar.nanosOf_lt c.fraction_isDigit c.fraction_length; omega

theorem ofClock?_eq (c : ClockText) :
    TimeOfDay.ofClock? c.hour c.minute c.second (Calendar.nanosOf c.fraction) = some c.time := by
  have hnano := Calendar.nanosOf_lt c.fraction_isDigit c.fraction_length
  rw [TimeOfDay.ofClock?, if_pos (by simp [c.hour_lt, c.minute_lt, hnano]), if_pos c.second_lt,
    TimeOfDay.ofSeconds?, dif_pos ⟨c.time.second_lt, c.time.nano_lt, c.time.leap⟩]
  rfl

/-- A time that is not a leap second is shown by a clock. -/
theorem exists_text_time {t : TimeOfDay} (h : t.nano < 1000000000) :
    ∃ c : ClockText, c.text = t.text ∧ c.time = t := by
  have hlt := t.second_lt
  obtain ⟨ds, hchars, hlength, hds, hnano⟩ := Calendar.exists_digits_of_fractionChars h
  refine ⟨⟨t.second / 3600, t.second / 60 % 60, t.second % 60, ds, by omega, by omega, by omega,
    hlength, hds⟩, ?_, ?_⟩
  · rw [text, TimeOfDay.text, TimeOfDay.toChars, Nat.div_eq_of_lt h, Nat.mod_eq_of_lt h, hchars,
      Nat.add_zero]
  · have hsum : 3600 * (t.second / 3600) + 60 * (t.second / 60 % 60) + t.second % 60 = t.second := by
      omega
    rw [TimeOfDay.mk.injEq]
    exact ⟨hsum, hnano⟩

/-- What a clock shows is read. -/
theorem ofClockText?_text (c : ClockText) : TimeOfDay.ofClockText? c.text = some c.time := by
  have hread {n : Nat} (hn : n < 60) (rest : List Char) :
      Calendar.number? 2 (paddedDigits 2 n ++ rest) = some (n, rest) :=
    Calendar.number?_paddedDigits (by decide) (Nat.lt_trans hn (by decide)) rest
  rw [text, TimeOfDay.ofClockText?, String.toList_ofList, List.append_assoc, List.append_assoc]
  simp only [Option.bind_eq_bind, List.cons_append, hread (Nat.lt_trans c.hour_lt (by decide)),
    hread c.minute_lt, hread c.second_lt, Calendar.literal?_cons,
    Calendar.fraction?_pointed c.fraction_isDigit c.fraction_length, Option.bind_some]
  exact c.ofClock?_eq

theorem isIn_text (c : ClockText) : TimeOfDay.literalPattern.isIn c.text = true := by
  have hhour := c.hour_lt
  have hminute := c.minute_lt
  have hsecond := c.second_lt
  obtain ⟨h₁, h₂, hh, hh₁, hh₂, hhval⟩ := exists_paddedDigits_two (show c.hour < 100 by omega)
  obtain ⟨m₁, m₂, hm, hm₁, hm₂, hmval⟩ := exists_paddedDigits_two (show c.minute < 100 by omega)
  obtain ⟨s₁, s₂, hs, hs₁, hs₂, hsval⟩ := exists_paddedDigits_two (show c.second < 100 by omega)
  refine TimeOfDay.isIn_literalPattern_iff.mpr ⟨h₁, h₂, m₁, m₂, s₁, s₂, Calendar.pointed c.fraction,
    ?_, (TimeOfDay.hourForm_iff hh₂).mpr ⟨hh₁, hhval ▸ hhour⟩,
    (TimeOfDay.sixtyForm_iff hm₂).mpr ⟨hm₁, hmval ▸ hminute⟩,
    (TimeOfDay.sixtyForm_iff hs₂).mpr ⟨hs₁, hsval ▸ hsecond⟩, c.fraction, rfl, c.fraction_length,
    fun d hd => CharSet.has_decimalDigits_of_isDigit (c.fraction_isDigit d hd)⟩
  rw [text, String.toList_ofList, hh, hm, hs]
  rfl

theorem ofLiteral?_text (c : ClockText) : TimeOfDay.ofLiteral? c.text = some c.time := by
  rw [TimeOfDay.ofLiteral?, if_pos c.isIn_text, c.ofClockText?_text]

end ClockText

namespace TimeOfDay

theorem ofLiteral?_text {t : TimeOfDay} (h : t.nano < 1000000000) : ofLiteral? t.text = some t := by
  obtain ⟨c, htext, htime⟩ := ClockText.exists_text_time h
  rw [← htext, c.ofLiteral?_text, htime]

/-- A text that the pattern picks out and that is read is one that a clock shows. -/
theorem exists_clockText {s : String} {t : TimeOfDay} (h : ofLiteral? s = some t) :
    ∃ c : ClockText, c.text = s ∧ c.time = t := by
  rw [ofLiteral?] at h
  split at h
  case isFalse => cases h
  case isTrue hin =>
    obtain ⟨h₁, h₂, m₁, m₂, s₁, s₂, _, hs, hhour, hminute, hsecond, ds, rfl, hlength, -⟩ :=
      isIn_literalPattern_iff.mp hin
    rw [ofClockText?, hs] at h
    simp only [Option.bind_eq_bind, Option.bind_eq_some_iff, Prod.exists] at h
    obtain ⟨hour, r₁, hread₁, _, r₂, hcolon₁, minute, r₃, hread₂, _, r₄, hcolon₂, second, r₅, hread₃,
      nano, r₆, hfraction, hend⟩ := h
    obtain rfl := Calendar.eq_cons_of_literal? hcolon₁
    obtain ⟨hh₂, rfl, hr₂⟩ := isDigit_of_number?_two hhour.isDigit_left hread₁ fun heq =>
      ne_of_has_decimalDigits (.inl rfl) hhour.has_right (List.cons.inj heq).1.symm
    obtain rfl := (List.cons.inj hr₂).2
    obtain rfl := Calendar.eq_cons_of_literal? hcolon₂
    obtain ⟨hm₂, rfl, hr₄⟩ := isDigit_of_number?_two hminute.isDigit_left hread₂ fun heq =>
      ne_of_has_decimalDigits (.inl rfl) hminute.2 (List.cons.inj heq).1.symm
    obtain rfl := (List.cons.inj hr₄).2
    split at hend
    case isFalse => cases hend
    case isTrue hempty =>
      obtain rfl := List.isEmpty_iff.mp hempty
      have hpoint := ne_of_has_decimalDigits (.inr rfl) hsecond.2
      obtain ⟨hs₂, rfl, rfl⟩ := isDigit_of_number?_two hsecond.isDigit_left hread₃ fun heq => by
        rw [heq, Calendar.fraction?_of_ne_point hpoint] at hfraction
        cases hfraction
      have hds := Calendar.forall_isDigit_of_fraction? hfraction
      have htime := Calendar.fraction?_pointed hds hlength
      obtain rfl : Calendar.nanosOf ds = nano := by
        rw [hfraction] at htime
        exact (Prod.mk.inj (Option.some.inj htime)).1.symm
      have hhour' := (hourForm_iff hh₂).mp hhour
      have hminute' := (sixtyForm_iff hm₂).mp hminute
      have hsecond' := (sixtyForm_iff hs₂).mp hsecond
      refine ⟨⟨_, _, _, ds, hhour'.2, hminute'.2, hsecond'.2, hlength, hds⟩, ?_, ?_⟩
      · rw [ClockText.text, paddedDigits_two hhour'.1 hh₂, paddedDigits_two hminute'.1 hm₂,
          paddedDigits_two hsecond'.1 hs₂, ← String.toList_inj, String.toList_ofList, hs]
        rfl
      · exact Option.some.inj ((ClockText.ofClock?_eq _).symm.trans hend)

/-- A text is read as a time exactly if a clock shows it, and as the time that the clock shows. The
text of every time but a leap second is read as that time. -/
theorem ofLiteral?_exact :
    (∀ s t, ofLiteral? s = some t ↔ ∃ c : ClockText, c.text = s ∧ c.time = t) ∧
    ∀ t : TimeOfDay, t.nano < 1000000000 → ofLiteral? t.text = some t := by
  refine ⟨fun s t => ⟨exists_clockText, ?_⟩, fun t => ofLiteral?_text⟩
  rintro ⟨c, rfl, rfl⟩
  exact c.ofLiteral?_text

/-- A time with one digit behind its point, and its own text, which has three. -/
theorem ofLiteral?_exact_half :
    let t : TimeOfDay := ⟨45045, 500000000, by decide, by decide, by decide⟩
    ofLiteral? "12:30:45.5" = some t ∧ t.nano < 1000000000 ∧ ofLiteral? t.text = some t ∧
      t.text = "12:30:45.500" := by
  intro t
  refine ⟨(ofLiteral?_exact.1 _ t).mpr ?_, by decide, ofLiteral?_exact.2 t (by decide), by decide⟩
  exact ⟨⟨12, 30, 45, ['5'], by decide, by decide, by decide, by decide,
    List.forall_mem_singleton.mpr rfl⟩, by decide, by decide⟩

end TimeOfDay

end SqlGateway
