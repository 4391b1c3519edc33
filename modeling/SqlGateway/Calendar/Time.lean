import SqlGateway.Calendar.Date

/-! Times of day to the nanosecond, and dates with a time. A leap second is
held as a fraction of one second or more after the 59th second of a minute. -/

namespace SqlGateway

/-- The time of day `second` seconds and `nano` nanoseconds after midnight. -/
structure TimeOfDay where
  second : Nat
  nano : Nat
  second_lt : second < 86400
  nano_lt : nano < 2000000000
  leap : 1000000000 ≤ nano → second % 60 = 59
  deriving DecidableEq

namespace TimeOfDay

/-- Midnight. -/
def midnight : TimeOfDay := ⟨0, 0, by decide, by decide, by decide⟩

instance : Inhabited TimeOfDay := ⟨midnight⟩

/-- The time with a number of seconds and nanoseconds after midnight, if they are in range. -/
def ofSeconds? (second nano : Nat) : Option TimeOfDay :=
  if h : second < 86400 ∧ nano < 2000000000 ∧ (1000000000 ≤ nano → second % 60 = 59) then
    some ⟨second, nano, h.1, h.2.1, h.2.2⟩
  else none

/-- The time of a clock reading. A 60th second is a leap second. -/
def ofClock? (hour minute second nano : Nat) : Option TimeOfDay :=
  if hour < 24 && minute < 60 && nano < 1000000000 then
    if second < 60 then ofSeconds? (3600 * hour + 60 * minute + second) nano
    else if second = 60 then ofSeconds? (3600 * hour + 60 * minute + 59) (nano + 1000000000)
    else none
  else none

/-- A fraction of a second with its point: none, three, six or nine digits, as few as are exact. -/
def fractionChars (nano : Nat) : List Char :=
  if nano = 0 then []
  else if nano % 1000000 = 0 then '.' :: paddedDigits 3 (nano / 1000000)
  else if nano % 1000 = 0 then '.' :: paddedDigits 6 (nano / 1000)
  else '.' :: paddedDigits 9 nano

/-- The text `HH:MM:SS` of a time, with its fraction; a leap second is the 60th. -/
def toChars (t : TimeOfDay) : List Char :=
  let second := t.second % 60 + t.nano / 1000000000
  paddedDigits 2 (t.second / 3600) ++ ':' :: paddedDigits 2 (t.second / 60 % 60)
    ++ ':' :: paddedDigits 2 second ++ fractionChars (t.nano % 1000000000)

/-- The text of a time. -/
def text (t : TimeOfDay) : String := String.ofList t.toChars

end TimeOfDay

/-- A date with a time of day, of no particular zone. -/
structure DateTime where
  date : Date
  time : TimeOfDay
  deriving DecidableEq, Inhabited

namespace DateTime

/-- Date and time with a separator between them. -/
def toChars (separator : Char) (t : DateTime) : List Char :=
  t.date.toChars ++ separator :: t.time.toChars

/-- Date and time with a blank between them. -/
def text (t : DateTime) : String := String.ofList (t.toChars ' ')

/-- Date and time with a `T` between them. -/
def isoText (t : DateTime) : String := String.ofList (t.toChars 'T')

end DateTime

end SqlGateway
