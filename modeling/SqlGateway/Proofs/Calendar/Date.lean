import SqlGateway.Proofs.Calendar.Reading

/-! Days and their year, month and day. The days of 400 years are numbered from a first of March, so
that a leap day is the last of its year; the number of leap days before a day is found from the
number of the day alone. What a day is written as is read as that day. -/

namespace SqlGateway.Date

/-! ### Years -/

/-- The year of a day among 400 years. -/
def yearOfEra (n : Int) : Int := (n - n / 1460 + n / 36524 - n / 146096) / 365

/-- The first day of a year among 400 years. -/
def startOfYear (y : Int) : Int := 365 * y + y / 4 - y / 100

section

variable {n : Int}

/-- A year has as many centuries before it as its days. -/
theorem century_of_yearOfEra (hlow : 0 ≤ n) (hhigh : n < 146097) :
    yearOfEra n / 100 = n / 36524 - n / 146096 := by
  have hcentury : n / 36524 = 0 ∨ n / 36524 = 1 ∨ n / 36524 = 2 ∨ n / 36524 = 3 ∨
      n / 36524 = 4 := by omega
  rw [yearOfEra]
  rcases hcentury with h | h | h | h | h <;> omega

theorem yearOfEra_bounds (hlow : 0 ≤ n) (hhigh : n < 146097) :
    0 ≤ yearOfEra n ∧ yearOfEra n ≤ 399 := by
  rw [yearOfEra]
  omega

/-- A day lies within its year. -/
theorem startOfYear_le (hlow : 0 ≤ n) (hhigh : n < 146097) :
    startOfYear (yearOfEra n) ≤ n ∧ n ≤ startOfYear (yearOfEra n) + 365 := by
  have hcentury := century_of_yearOfEra hlow hhigh
  have hdays : 365 * yearOfEra n ≤ n - n / 1460 + n / 36524 - n / 146096 ∧
      n - n / 1460 + n / 36524 - n / 146096 < 365 * yearOfEra n + 365 := by
    rw [yearOfEra]
    omega
  rw [startOfYear]
  generalize yearOfEra n = y at *
  have hleap : y / 4 ≤ n / 1460 ∧ n / 1460 ≤ y / 4 + 1 := by omega
  omega

/-- Only a year that ends in a leap day has a 366th day. -/
theorem isLeapYear_of_lastDay (hlow : 0 ≤ n) (hhigh : n < 146097)
    (h : n = startOfYear (yearOfEra n) + 365) (era : Int) :
    isLeapYear (yearOfEra n + era * 400 + 1) = true := by
  have hcentury := century_of_yearOfEra hlow hhigh
  have hbounds := yearOfEra_bounds hlow hhigh
  have hdays : n - n / 1460 + n / 36524 - n / 146096 < 365 * yearOfEra n + 365 := by
    rw [yearOfEra]
    omega
  rw [startOfYear] at h
  generalize yearOfEra n = y at *
  have hleap : n / 1460 = y / 4 + 1 := by omega
  have hfourth : 3 ≤ y % 4 := by omega
  have hfour : (y + 1) % 4 = 0 := by omega
  have hhundred : (y + 1) % 100 = 0 → y = 399 := by omega
  simp only [isLeapYear, Bool.and_eq_true, Bool.or_eq_true, beq_iff_eq, bne_iff_ne]
  omega

end

/-! ### Months -/

/-- A calendar day of a year that starts in March. -/
structure IsCivil (year : Int) (month day : Nat) : Prop where
  month_pos : 1 ≤ month
  month_le : month ≤ 12
  day_pos : 1 ≤ day
  day_le : day ≤ daysInMonth year month

/-- The months from March on, by how many of them have passed. -/
def monthAfter (shifted : Nat) : Nat := if shifted < 10 then shifted + 3 else shifted - 9

/-- The first day of a month in a year that starts in March. The months follow each other in a
straight line, and only the length of the last one depends on the year. -/
def startOfMonth (shifted : Nat) : Nat := (153 * shifted + 2) / 5

theorem daysInMonth_monthAfter (year : Int) {shifted : Nat} (h : shifted < 11) :
    startOfMonth (shifted + 1) = startOfMonth shifted + daysInMonth year (monthAfter shifted) := by
  match shifted, h with
  | 0, _ | 1, _ | 2, _ | 3, _ | 4, _ | 5, _ | 6, _ | 7, _ | 8, _ | 9, _ | 10, _ => rfl

theorem isCivil_monthAfter {year : Int} {shifted d : Nat} (hshifted : (5 * d + 2) / 153 = shifted)
    (hd : d ≤ 365) (hleap : d = 365 → isLeapYear year = true) :
    IsCivil year (monthAfter shifted) (d - startOfMonth shifted + 1) := by
  have hlt : shifted < 12 := by omega
  have hday : startOfMonth shifted ≤ d ∧ d < startOfMonth (shifted + 1) := by
    rw [startOfMonth, startOfMonth]
    omega
  refine ⟨?_, ?_, Nat.le_add_left 1 _, ?_⟩
  · rw [monthAfter]
    split <;> omega
  · rw [monthAfter]
    split <;> omega
  · by_cases hlast : shifted = 11
    · rw [hlast, startOfMonth, monthAfter, if_neg (by decide), daysInMonth, if_pos rfl]
      split
      · omega
      · next hnot =>
        have : d ≠ 365 := fun heq => hnot (hleap heq)
        omega
    · have := daysInMonth_monthAfter year (show shifted < 11 by omega)
      omega

/-- A day of a year that starts in March comes after the days of the months before it. -/
theorem dayOfCivil_monthAfter {y : Int} {shifted day : Nat} (hshifted : shifted < 12) (era : Int)
    (hy : 0 ≤ y ∧ y ≤ 399) :
    dayOfCivil (y + era * 400 + if monthAfter shifted ≤ 2 then 1 else 0) (monthAfter shifted)
      (day + 1) = era * 146097 + (startOfYear y + (startOfMonth shifted + day : Nat)) - 719468 := by
  have hera : (y + era * 400) / 400 = era ∧ (y + era * 400) % 400 = y := by omega
  have hdays : ((153 * (shifted : Int) + 2) / 5 : Int) = startOfMonth shifted := by
    rw [startOfMonth]
    omega
  by_cases hyear : shifted < 10
  · have hmonth : monthAfter shifted = shifted + 3 := if_pos hyear
    have hpast : ((shifted + 3 : Nat) : Int) - 3 = shifted := by omega
    rw [hmonth, if_neg (by omega), Int.add_zero, dayOfCivil, if_neg (by omega), if_neg (by omega)]
    simp only [hera, hpast, hdays, startOfYear]
    omega
  · have hmonth : monthAfter shifted = shifted - 9 := if_neg hyear
    have hpast : ((shifted - 9 : Nat) : Int) + 9 = shifted := by omega
    rw [hmonth, if_pos (by omega), dayOfCivil, if_pos (by omega), if_pos (by omega),
      Int.add_sub_cancel]
    simp only [hera, hpast, hdays, startOfYear]
    omega

/-! ### Calendar days -/

/-- The year, month and day of a day count, from the number of the day in its year. -/
theorem civilOfDay_eq {n era z y : Int} {d : Nat} (hera : (n + 719468) / 146097 = era)
    (hz : (n + 719468) % 146097 = z) (hy : yearOfEra z = y) (hd : z - startOfYear y = d)
    (hle : d ≤ 365) :
    civilOfDay n = (y + era * 400 + (if monthAfter ((5 * d + 2) / 153) ≤ 2 then 1 else 0),
      monthAfter ((5 * d + 2) / 153), d - startOfMonth ((5 * d + 2) / 153) + 1) := by
  rw [yearOfEra] at hy
  rw [startOfYear] at hd
  rw [civilOfDay]
  simp only [hera, hz, hy, hd]
  generalize hshifted : (5 * d + 2) / 153 = shifted
  have hcast : ((5 * (d : Int) + 2) / 153 : Int) = shifted := by omega
  have hday : startOfMonth shifted ≤ d := by
    rw [startOfMonth]
    omega
  have hstart : ((153 * (shifted : Int) + 2) / 5 : Int) = startOfMonth shifted := by
    rw [startOfMonth]
    omega
  simp only [hcast, hstart]
  by_cases hyear : shifted < 10
  · rw [if_pos (show (shifted : Int) < 10 by omega), if_neg (show ¬ (shifted : Int) + 3 ≤ 2 by omega),
      monthAfter, if_pos hyear, if_neg (show ¬ shifted + 3 ≤ 2 by omega), Prod.mk.injEq, Prod.mk.injEq]
    omega
  · rw [if_neg (show ¬ (shifted : Int) < 10 by omega), if_pos (show (shifted : Int) - 9 ≤ 2 by omega),
      monthAfter, if_neg hyear, if_pos (show shifted - 9 ≤ 2 by omega), Prod.mk.injEq, Prod.mk.injEq]
    omega

/-- The year, month and day of a day count exist and count as many days. -/
theorem isCivil_civilOfDay (n : Int) :
    IsCivil (civilOfDay n).1 (civilOfDay n).2.1 (civilOfDay n).2.2 ∧
      dayOfCivil (civilOfDay n).1 (civilOfDay n).2.1 (civilOfDay n).2.2 = n := by
  generalize hera : (n + 719468) / 146097 = era
  generalize hz : (n + 719468) % 146097 = z
  have hlow : 0 ≤ z := by omega
  have hhigh : z < 146097 := by omega
  have hyear := yearOfEra_bounds hlow hhigh
  have hwithin := startOfYear_le hlow hhigh
  have hleap := isLeapYear_of_lastDay hlow hhigh
  generalize hy : yearOfEra z = y at *
  obtain ⟨d, hd⟩ := Int.eq_ofNat_of_zero_le (show 0 ≤ z - startOfYear y by omega)
  rw [civilOfDay_eq hera hz hy hd (by omega)]
  generalize hshifted : (5 * d + 2) / 153 = shifted
  have hlt : shifted < 12 := by omega
  have hday : startOfMonth shifted ≤ d := by
    rw [startOfMonth]
    omega
  dsimp only
  refine ⟨isCivil_monthAfter hshifted (by omega) fun hlast => ?_, ?_⟩
  · have hfebruary : monthAfter shifted ≤ 2 := by
      rw [monthAfter, if_neg (by omega)]
      omega
    rw [if_pos hfebruary]
    exact hleap (by omega) era
  · rw [dayOfCivil_monthAfter hlt era hyear]
    omega

theorem ofCivil?_civil (d : Date) : ofCivil? d.civil.1 d.civil.2.1 d.civil.2.2 = some d := by
  obtain ⟨hcivil, hday⟩ := isCivil_civilOfDay d.day
  have hin : (1 ≤ d.civil.2.1 && d.civil.2.1 ≤ 12 && 1 ≤ d.civil.2.2 &&
      d.civil.2.2 ≤ daysInMonth d.civil.1 d.civil.2.1) = true := by
    simp only [Bool.and_eq_true, decide_eq_true_eq]
    exact ⟨⟨⟨hcivil.month_pos, hcivil.month_le⟩, hcivil.day_pos⟩, hcivil.day_le⟩
  rw [ofCivil?, if_pos hin, ofDay?, civil, hday, dif_pos ⟨d.firstDay_le, d.le_lastDay⟩]

/-! ### Texts -/

open Calendar

theorem year_bounds (d : Date) : d.civil.1.natAbs < 1000000 := by
  have hlow := d.firstDay_le
  have hhigh := d.le_lastDay
  have hyear := yearOfEra_bounds (show 0 ≤ (d.day + 719468) % 146097 by omega) (by omega)
  rw [firstDay] at hlow
  rw [lastDay] at hhigh
  rw [yearOfEra] at hyear
  rw [civil, civilOfDay]
  dsimp only
  generalize (_ / 365 : Int) = y at *
  split <;> omega

/-- A year is read with its sign, or by its four digits. -/
theorem year?_yearChars {year : Int} (h : year.natAbs < 1000000) (rest : List Char) :
    year? (yearChars year ++ '-' :: rest) = some (year, '-' :: rest) := by
  have hsigned {sign : Char} (hsign : isBlank sign = false) :
      dropBlanks (sign :: paddedDigits 4 year.natAbs ++ '-' :: rest) =
        sign :: (paddedDigits 4 year.natAbs ++ '-' :: rest) :=
    dropBlanks_of_head fun c hc => Option.mem_some_iff.mp hc ▸ hsign
  have hspan : spanDigits (paddedDigits 4 year.natAbs ++ '-' :: rest) =
      (paddedDigits 4 year.natAbs, '-' :: rest) :=
    spanDigits_append (fun c hc => isDigit_of_mem_paddedDigits hc) fun c hc =>
      Option.mem_some_iff.mp hc ▸ rfl
  have hfits : ((paddedDigits 4 year.natAbs).isEmpty ||
      decide (Int64.maxValue.toInt < (year.natAbs : Int))) = false := by
    rw [Bool.or_eq_false_iff, List.isEmpty_eq_false_iff, decide_eq_false_iff_not,
      show Int64.maxValue.toInt = 9223372036854775807 from rfl]
    exact ⟨paddedDigits_ne_nil 4 _, by omega⟩
  rw [yearChars]
  split
  · next hplain =>
    simp only [Bool.and_eq_true, decide_eq_true_eq] at hplain
    have hread := number?_paddedDigits (show 0 < 4 by decide) (show year.natAbs < 10 ^ 4 by omega)
      ('-' :: rest)
    obtain ⟨d, ds, hds⟩ := List.exists_cons_of_ne_nil (paddedDigits_ne_nil 4 year.natAbs)
    have hd : isDigit d = true := isDigit_of_mem_paddedDigits (hds ▸ List.mem_cons_self)
    rw [hds] at hread ⊢
    have hdrop : dropBlanks (d :: ds ++ '-' :: rest) = d :: ds ++ '-' :: rest :=
      dropBlanks_of_head fun c hc => Option.mem_some_iff.mp hc ▸ isBlank_of_isDigit hd
    rw [year?, hdrop]
    split
    · next heq =>
      cases heq
      cases hd
    · next heq =>
      cases heq
      cases hd
    · rw [hread]
      exact congrArg (fun y => some (y, '-' :: rest)) (Int.natAbs_of_nonneg hplain.1)
  · split
    · next hnegative =>
      rw [year?, hsigned rfl]
      simp only [hspan, ofDigits_paddedDigits]
      rw [hfits]
      exact congrArg (fun y => some (y, '-' :: rest)) (by omega)
    · next hpositive =>
      rw [year?, hsigned rfl]
      simp only [hspan, ofDigits_paddedDigits]
      rw [hfits]
      exact congrArg (fun y => some (y, '-' :: rest)) (by omega)

theorem daysInMonth_le (year : Int) (month : Nat) : daysInMonth year month ≤ 31 := by
  rw [daysInMonth]
  split
  · split <;> decide
  · split <;> decide

/-- What a date is written as is read as that date. -/
theorem date?_toChars (d : Date) (rest : List Char) :
    date? (d.toChars ++ rest) = some (d, rest) := by
  obtain ⟨hcivil, -⟩ := isCivil_civilOfDay d.day
  have hmonth (rest : List Char) :
      number? 2 (paddedDigits 2 d.civil.2.1 ++ rest) = some (d.civil.2.1, rest) :=
    number?_paddedDigits (by decide) (Nat.lt_of_le_of_lt hcivil.month_le (by decide)) rest
  have hday (rest : List Char) :
      number? 2 (paddedDigits 2 d.civil.2.2 ++ rest) = some (d.civil.2.2, rest) := by
    have hle := Nat.le_trans hcivil.day_le (daysInMonth_le _ _)
    exact number?_paddedDigits (by decide) (Nat.lt_of_le_of_lt hle (by decide)) rest
  rw [toChars, civilChars, List.append_assoc, List.append_assoc, List.cons_append, List.cons_append,
    date?]
  simp only [Option.bind_eq_bind, year?_yearChars d.year_bounds, hmonth, hday, ofCivil?_civil,
    separator?_cons (show isBlank '-' = false from rfl), Option.bind_some]
  rfl

theorem ofText?_text (d : Date) : ofText? d.text = some d := by
  rw [ofText?, text, String.toList_ofList, ← List.append_nil d.toChars, date?_toChars]
  rfl

end SqlGateway.Date
