import SqlGateway.Text.Digits

/-! Days of the proleptic Gregorian calendar, counted from the first of January
1970, and their year, month and day. -/

namespace SqlGateway

/-- The day counts of the years -262143 and 262142, the first and last that a date may have. -/
def firstDay : Int := -96465292
def lastDay : Int := 95026236

/-- A day, counted from the first of January 1970. -/
structure Date where
  day : Int
  firstDay_le : firstDay ≤ day
  le_lastDay : day ≤ lastDay
  deriving DecidableEq

namespace Date

/-- The date of a day count, if its year is in range. -/
def ofDay? (n : Int) : Option Date :=
  if h : firstDay ≤ n ∧ n ≤ lastDay then some ⟨n, h.1, h.2⟩ else none

/-- The first of January 1970. -/
def epoch : Date := ⟨0, by decide, by decide⟩

instance : Inhabited Date := ⟨epoch⟩

/-! ### Years, months and days -/

/-- Whether a year has 366 days. -/
def isLeapYear (year : Int) : Bool :=
  year % 4 == 0 && (year % 100 != 0 || year % 400 == 0)

/-- The number of days of a month. -/
def daysInMonth (year : Int) (month : Nat) : Nat :=
  if month = 2 then (if isLeapYear year then 29 else 28)
  else if month = 4 || month = 6 || month = 9 || month = 11 then 30 else 31

/-- The day count of a calendar day. Years are taken to start in March, so that the leap day is
the last one, and the 146097 days of 400 years repeat. -/
def dayOfCivil (year : Int) (month day : Nat) : Int :=
  let y := if month ≤ 2 then year - 1 else year
  let era := y / 400
  let yearOfEra := y % 400
  let shifted : Int := if month ≤ 2 then (month : Int) + 9 else (month : Int) - 3
  let dayOfYear := (153 * shifted + 2) / 5 + day - 1
  let dayOfEra := yearOfEra * 365 + yearOfEra / 4 - yearOfEra / 100 + dayOfYear
  era * 146097 + dayOfEra - 719468

/-- The year, month and day of a day count. -/
def civilOfDay (n : Int) : Int × Nat × Nat :=
  let z := n + 719468
  let era := z / 146097
  let dayOfEra := z % 146097
  let yearOfEra := (dayOfEra - dayOfEra / 1460 + dayOfEra / 36524 - dayOfEra / 146096) / 365
  let dayOfYear := dayOfEra - (365 * yearOfEra + yearOfEra / 4 - yearOfEra / 100)
  let shifted := (5 * dayOfYear + 2) / 153
  let day := dayOfYear - (153 * shifted + 2) / 5 + 1
  let month := if shifted < 10 then shifted + 3 else shifted - 9
  let year := yearOfEra + era * 400 + (if month ≤ 2 then 1 else 0)
  (year, month.toNat, day.toNat)

/-- The date of a year, month and day that exist. -/
def ofCivil? (year : Int) (month day : Nat) : Option Date :=
  if 1 ≤ month && month ≤ 12 && 1 ≤ day && day ≤ daysInMonth year month then
    ofDay? (dayOfCivil year month day)
  else none

/-- The year, month and day of a date. -/
def civil (d : Date) : Int × Nat × Nat := civilOfDay d.day

/-- A year in four digits, or with a sign and at least four digits outside 0 to 9999. -/
def yearChars (year : Int) : List Char :=
  if 0 ≤ year && year ≤ 9999 then paddedDigits 4 year.natAbs
  else (if year < 0 then '-' else '+') :: paddedDigits 4 year.natAbs

/-- The text `YYYY-MM-DD` of a year, month and day. -/
def civilChars : Int × Nat × Nat → List Char
  | (year, month, day) =>
    yearChars year ++ '-' :: paddedDigits 2 month ++ '-' :: paddedDigits 2 day

/-- The text of a date as a list of characters. -/
def toChars (d : Date) : List Char := civilChars d.civil

/-- The text of a date. -/
def text (d : Date) : String := String.ofList d.toChars

end Date

end SqlGateway
