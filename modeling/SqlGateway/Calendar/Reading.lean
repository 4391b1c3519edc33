import SqlGateway.Calendar.Time
import SqlGateway.Number.Power
import SqlGateway.Pattern.Basic
import SqlGateway.Text.Parts

/-! Reading dates and times. Blanks may stand before a number, a separator and
at the end; numbers have at most their usual width, a signed year any width. A
time literal is picked out by a pattern and then read: the pattern takes digits
of every script, the reading those of ASCII only. -/

namespace SqlGateway.Calendar

/-- A reader takes a value off the front of a text. -/
abbrev Reader (α : Type) := List Char → Option (α × List Char)

/-- A number of at least one and at most `width` digits, after blanks. -/
def number? (width : Nat) : Reader Nat := fun cs =>
  let cs := dropBlanks cs
  let ds := (cs.takeWhile isDigit).take width
  if ds.isEmpty then none else some (ofDigits ds, cs.drop ds.length)

/-- A year: up to four digits, or a sign and any number of digits. -/
def year? : Reader Int := fun cs =>
  let signed (r : List Char) : Option (Nat × List Char) :=
    let (ds, rest) := spanDigits r
    if ds.isEmpty || Int64.maxValue.toInt < ofDigits ds then none else some (ofDigits ds, rest)
  match dropBlanks cs with
  | '-' :: r => (signed r).map fun (n, rest) => (-(n : Int), rest)
  | '+' :: r => (signed r).map fun (n, rest) => ((n : Int), rest)
  | r => (number? 4 r).map fun (n, rest) => ((n : Int), rest)

/-- A separator, after blanks. -/
def separator? (c : Char) : Reader Unit := fun cs =>
  match dropBlanks cs with
  | d :: r => if c = d then some ((), r) else none
  | [] => none

/-- A character that must stand at the front. -/
def literal? (c : Char) : Reader Unit
  | d :: cs => if d = c then some ((), cs) else none
  | [] => none

/-- The nanoseconds of a fraction, if a point follows; digits past the ninth are dropped. -/
def fraction? : Reader Nat := fun
  | '.' :: cs =>
    let (ds, rest) := spanDigits cs
    let kept := ds.take 9
    if ds.isEmpty then none else some (ofDigits kept * 10 ^ (9 - kept.length), rest)
  | cs => some (0, cs)

/-- Only blanks. -/
def atEnd (cs : List Char) : Bool := (dropBlanks cs).isEmpty

/-- A year, month and day. -/
def date? : Reader Date := fun cs => do
  let (year, cs) ← year? cs
  let (_, cs) ← separator? '-' cs
  let (month, cs) ← number? 2 cs
  let (_, cs) ← separator? '-' cs
  let (day, cs) ← number? 2 cs
  let date ← Date.ofCivil? year month day
  return (date, cs)

/-- The seconds of a clock reading and their fraction. -/
def seconds? : Reader (Nat × Nat) := fun cs => do
  let (_, cs) ← separator? ':' cs
  let (second, cs) ← number? 2 cs
  let (nano, cs) ← fraction? cs
  return ((second, nano), cs)

/-- The hour and minute of a clock reading. -/
def hourMinute? : Reader (Nat × Nat) := fun cs => do
  let (hour, cs) ← number? 2 cs
  let (_, cs) ← separator? ':' cs
  let (minute, cs) ← number? 2 cs
  return ((hour, minute), cs)

end SqlGateway.Calendar

namespace SqlGateway

/-- Reads a date. -/
def Date.ofText? (s : String) : Option Date := do
  let (date, rest) ← Calendar.date? s.toList
  if Calendar.atEnd rest then some date else none

/-- Reads a time of day; the seconds may be left out. -/
def TimeOfDay.ofText? (s : String) : Option TimeOfDay := do
  let ((hour, minute), cs) ← Calendar.hourMinute? s.toList
  let ((second, nano), rest) := (Calendar.seconds? cs).getD ((0, 0), cs)
  if Calendar.atEnd rest then ofClock? hour minute second nano else none

/-- Reads a time of day in the form `%H:%M:%S%.f`: the seconds must be there, no blanks stand before
the colons or at the end, and a fraction may follow. -/
def TimeOfDay.ofClockText? (s : String) : Option TimeOfDay := do
  let (hour, cs) ← Calendar.number? 2 s.toList
  let (_, cs) ← Calendar.literal? ':' cs
  let (minute, cs) ← Calendar.number? 2 cs
  let (_, cs) ← Calendar.literal? ':' cs
  let (second, cs) ← Calendar.number? 2 cs
  let (nano, cs) ← Calendar.fraction? cs
  if cs.isEmpty then ofClock? hour minute second nano else none

/-- Reads a date, a `T` and a time with seconds. -/
def DateTime.ofText? (s : String) : Option DateTime := do
  let (date, cs) ← Calendar.date? s.toList
  let (_, cs) ← Calendar.separator? 'T' cs
  let ((hour, minute), cs) ← Calendar.hourMinute? cs
  let ((second, nano), rest) ← Calendar.seconds? cs
  let time ← TimeOfDay.ofClock? hour minute second nano
  if Calendar.atEnd rest then some ⟨date, time⟩ else none

end SqlGateway

/-! ### Time literals -/

namespace SqlGateway

/-- The ASCII digits up to `last`. -/
def CharSet.digitsTo (last : Char) : CharSet := ⟨['0'.toNat, last.toNat + 1]⟩

namespace TimeOfDay

/-- The pattern `([01]\d|2[0-3])`. -/
def hourPattern : Pattern :=
  .group <| .alt (.seq (.chars (.digitsTo '1')) (.chars .decimalDigits))
    (.seq (.chars (.single '2')) (.chars (.digitsTo '3')))

/-- The pattern `(\.\d{1,9})?`. -/
def fractionPattern : Pattern :=
  .repeated (.group (.seq (.chars (.single '.')) (.repeated (.chars .decimalDigits) 1 (some 9))))
    0 (some 1)

/-- The pattern `^([01]\d|2[0-3]):[0-5]\d:[0-5]\d(\.\d{1,9})?$`. -/
def literalPattern : Pattern :=
  let colon : Pattern := .chars (.single ':')
  let tens : Pattern := .chars (.digitsTo '5')
  let ones : Pattern := .chars .decimalDigits
  .seq (.anchor .textStart) <| .seq hourPattern <| .seq colon <| .seq tens <| .seq ones <|
    .seq colon <| .seq tens <| .seq ones <| .seq fractionPattern <| .anchor .textEnd

/-- Reads a text that has the form of a time. -/
def ofLiteral? (s : String) : Option TimeOfDay :=
  if literalPattern.isIn s then ofClockText? s else none

theorem ofLiteral?_eq_none {s : String} (h : ofClockText? s = none) : ofLiteral? s = none := by
  rw [ofLiteral?, h, ite_self]

end TimeOfDay

end SqlGateway
