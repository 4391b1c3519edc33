import SqlGateway.Calendar.Time
import SqlGateway.Host

/-! Instants are counted in milliseconds from the start of 1970 in universal
time; callers see the local clock of the host. -/

namespace SqlGateway

variable [Host]

namespace DateTime

/-- Whole seconds from the start of 1970 to a wall-clock reading. -/
def seconds (t : DateTime) : Int := 86400 * t.date.day + t.time.second

/-- The reading a number of seconds and nanoseconds after the start of 1970, if its date is in
range. -/
def ofSeconds? (seconds : Int) (nano : Nat) : Option DateTime := do
  let date ← Date.ofDay? (seconds / 86400)
  let time ← TimeOfDay.ofSeconds? (seconds % 86400).toNat nano
  return ⟨date, time⟩

/-- Shifts a reading by whole seconds; the fraction stays as it is. -/
def shift? (t : DateTime) (by_ : Int) : Option DateTime := do
  let seconds := t.seconds + by_
  let date ← Date.ofDay? (seconds / 86400)
  if h : (seconds % 86400).toNat < 86400 ∧
      (1000000000 ≤ t.time.nano → (seconds % 86400).toNat % 60 = 59) then
    return ⟨date, ⟨_, t.time.nano, h.1, t.time.nano_lt, h.2⟩⟩
  else none

/-- The milliseconds from the start of 1970 to a reading in universal time. -/
def universalMillis (t : DateTime) : Int := 1000 * t.seconds + t.time.nano / 1000000

/-- Whether the date is in range that universal clocks have when clocks ahead of them show a
reading. -/
def hasInstant (t : DateTime) (ahead : Int) : Bool :=
  (Date.ofDay? ((t.seconds - ahead) / 86400)).isSome

/-- The instant at which clocks that are ahead of universal ones show a reading. -/
def millisAhead (t : DateTime) (ahead : Int) : Int := t.universalMillis - 1000 * ahead

/-- The instant of a local reading, the earlier one of a reading that the clocks repeat. A reading
that they skip keeps its digits in universal time, as does one whose universal date is out of
range. -/
def toMillis (t : DateTime) : Int :=
  match Host.zone.showing t.seconds with
  | .once ahead => if t.hasInstant ahead then t.millisAhead ahead else t.universalMillis
  | .twice earlier later =>
    if t.hasInstant earlier && t.hasInstant later then t.millisAhead earlier
    else t.universalMillis
  | .skipped => t.universalMillis

/-- The universal reading of an instant. -/
def ofUniversalMillis? (millis : Int) : Option DateTime :=
  ofSeconds? (millis / 1000) ((millis % 1000).toNat * 1000000)

/-- The local reading of an instant, if its date is in range. -/
def ofMillis? (millis : Int) : Option DateTime := do
  let universal ← ofUniversalMillis? millis
  universal.shift? (Host.zone.offset universal.seconds)

/-- The local reading of whole seconds from the start of 1970. -/
def ofEpochSeconds? (seconds : Int) : Option DateTime := ofMillis? (1000 * seconds)

end DateTime

/-- The instant of local midnight of a date. -/
def Date.toMillis (d : Date) : Int := DateTime.toMillis ⟨d, TimeOfDay.midnight⟩

end SqlGateway
