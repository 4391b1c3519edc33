import SqlGateway.Calendar.Instant

/-! A local reading that is stored as an instant is read back without what is below a
millisecond, unless it is in a leap second, a date is out of range, or the clocks skip it. -/

namespace SqlGateway

namespace TimeOfDay

/-- A time without what is below a millisecond. -/
def toMillisecond (t : TimeOfDay) : TimeOfDay where
  second := t.second
  nano := t.nano / 1000000 * 1000000
  second_lt := t.second_lt
  nano_lt := Nat.lt_of_le_of_lt (Nat.div_mul_le_self _ _) t.nano_lt
  leap h := t.leap (Nat.le_trans h (Nat.div_mul_le_self _ _))

end TimeOfDay

theorem Date.ofDay?_day (d : Date) : Date.ofDay? d.day = some d := by
  rw [Date.ofDay?, dif_pos ⟨d.firstDay_le, d.le_lastDay⟩]

namespace DateTime

/-- A reading without what is below a millisecond. -/
def toMillisecond (t : DateTime) : DateTime := ⟨t.date, t.time.toMillisecond⟩

theorem day_of_seconds (t : DateTime) : t.seconds / 86400 = t.date.day := by
  have := t.time.second_lt
  rw [seconds]
  omega

theorem second_of_seconds (t : DateTime) : (t.seconds % 86400).toNat = t.time.second := by
  have := t.time.second_lt
  rw [seconds]
  omega

/-- The reading of its own seconds and nanoseconds. -/
theorem ofSeconds?_seconds (t : DateTime) : ofSeconds? t.seconds t.time.nano = some t := by
  have hin : t.time.second < 86400 ∧ t.time.nano < 2000000000 ∧
      (1000000000 ≤ t.time.nano → t.time.second % 60 = 59) :=
    ⟨t.time.second_lt, t.time.nano_lt, t.time.leap⟩
  rw [ofSeconds?, day_of_seconds, second_of_seconds, Date.ofDay?_day, TimeOfDay.ofSeconds?,
    dif_pos hin]
  rfl

/-- Shifting a reading gives the one that is so many seconds away. -/
theorem shift?_of_seconds {t u : DateTime} {n : Int} (hseconds : u.seconds = t.seconds + n)
    (hnano : u.time.nano = t.time.nano) : t.shift? n = some u := by
  obtain ⟨date, second, nano, hsecond, hlt, hleap⟩ := u
  dsimp only at hnano
  subst hnano
  have hday := day_of_seconds ⟨date, second, t.time.nano, hsecond, hlt, hleap⟩
  have hclock := second_of_seconds ⟨date, second, t.time.nano, hsecond, hlt, hleap⟩
  rw [hseconds] at hday hclock
  dsimp only at hday hclock
  rw [shift?, hday, Date.ofDay?_day]
  simp only [hclock, Option.bind_eq_bind, Option.bind_some]
  rw [dif_pos ⟨hsecond, hleap⟩]
  rfl

theorem seconds_of_shift? {t u : DateTime} {n : Int} (h : t.shift? n = some u) :
    u.seconds = t.seconds + n ∧ u.time.nano = t.time.nano := by
  obtain ⟨date, hdate, h⟩ := Option.bind_eq_some_iff.mp h
  split at h
  · cases h
    rw [Date.ofDay?] at hdate
    split at hdate
    · cases hdate
      refine ⟨?_, rfl⟩
      rw [seconds]
      dsimp only
      omega
    · cases hdate
  · cases h

/-- The universal reading at an instant at which clocks that are ahead show a reading. -/
theorem exists_instant {t : DateTime} {ahead : Int} (hnano : t.time.nano < 1000000000)
    (h : t.hasInstant ahead = true) :
    ∃ u : DateTime, u.seconds = t.seconds - ahead ∧ u.time.nano = t.time.nano := by
  obtain ⟨date, hdate⟩ := Option.isSome_iff_exists.mp h
  have hsecond : ((t.seconds - ahead) % 86400).toNat < 86400 := by omega
  refine ⟨⟨date, ⟨_, t.time.nano, hsecond, t.time.nano_lt, fun h => by omega⟩⟩, ?_, rfl⟩
  rw [Date.ofDay?] at hdate
  split at hdate
  · cases hdate
    rw [seconds]
    dsimp only
    omega
  · cases hdate

theorem ofUniversalMillis?_universalMillis {t : DateTime} (h : t.time.nano < 1000000000) :
    ofUniversalMillis? t.universalMillis = some t.toMillisecond := by
  have hseconds : t.universalMillis / 1000 = t.toMillisecond.seconds := by
    rw [universalMillis]
    change _ = t.seconds
    omega
  have hnano : (t.universalMillis % 1000).toNat * 1000000 = t.toMillisecond.time.nano := by
    rw [universalMillis]
    change _ = t.time.nano / 1000000 * 1000000
    omega
  rw [ofUniversalMillis?, hseconds, hnano, ofSeconds?_seconds]

theorem toInt_universalMillis {t : DateTime} (h : t.time.nano < 1000000000) :
    (Int64.ofInt t.universalMillis).toInt = t.universalMillis := by
  have hfirst := t.date.firstDay_le
  have hlast := t.date.le_lastDay
  have hsecond := t.time.second_lt
  rw [firstDay] at hfirst
  rw [lastDay] at hlast
  have hbounds : -2 ^ 63 ≤ t.universalMillis ∧ t.universalMillis < 2 ^ 63 := by
    rw [universalMillis, seconds]
    omega
  exact Int64.toInt_ofInt_of_le hbounds.1 hbounds.2

/-- At the instant of a universal reading, clocks that are ahead show the one so much later. -/
theorem ofMillis?_universalMillis [Host] {t u : DateTime} (hnano : t.time.nano < 1000000000)
    (hshift : t.shift? (Host.zone.offset t.seconds) = some u) :
    ofMillis? (Int64.ofInt t.universalMillis).toInt = some u.toMillisecond := by
  obtain ⟨hseconds, hsame⟩ := seconds_of_shift? hshift
  rw [toInt_universalMillis hnano, ofMillis?, ofUniversalMillis?_universalMillis hnano]
  refine shift?_of_seconds (t := t.toMillisecond) hseconds ?_
  change u.time.nano / 1000000 * 1000000 = t.time.nano / 1000000 * 1000000
  rw [hsame]

/-- Clocks that are ahead by what they are at the instant of a reading show that reading. -/
theorem ofMillis?_millisAhead [Host] {t : DateTime} {ahead : Int}
    (hnano : t.time.nano < 1000000000) (hinstant : t.hasInstant ahead = true)
    (hahead : Host.zone.offset (t.seconds - ahead) = ahead) :
    ofMillis? (Int64.ofInt (t.millisAhead ahead)).toInt = some t.toMillisecond := by
  obtain ⟨u, hseconds, hsame⟩ := exists_instant hnano hinstant
  have hmillis : t.millisAhead ahead = u.universalMillis := by
    rw [millisAhead, universalMillis, universalMillis, hseconds, hsame]
    omega
  rw [hmillis]
  refine ofMillis?_universalMillis (hsame ▸ hnano) (shift?_of_seconds ?_ hsame.symm)
  rw [hseconds, hahead]
  omega

/-! ### Stored readings -/

/-- Whether the dates are in range that a reading has in universal time and, if the clocks skip it,
that they show at the instant that is stored for it. -/
def inRange [Host] (t : DateTime) : Bool :=
  match Host.zone.showing t.seconds with
  | .once ahead => t.hasInstant ahead
  | .twice earlier later => t.hasInstant earlier && t.hasInstant later
  | .skipped => (t.shift? (Host.zone.offset t.seconds)).isSome

/-- What the clocks show at the instant that is stored for a reading: the reading itself, once or
twice, or what they show when universal clocks show one that they skip. -/
def shown [Host] (t : DateTime) : DateTime :=
  match Host.zone.showing t.seconds with
  | .once _ | .twice _ _ => t
  | .skipped => (t.shift? (Host.zone.offset t.seconds)).getD t

/-- What is stored for a reading is read back as what the clocks then show, down to the
millisecond. -/
theorem ofMillis?_toMillis [Host] {t : DateTime} (hnano : t.time.nano < 1000000000)
    (hrange : t.inRange = true) :
    ofMillis? (Int64.ofInt t.toMillis).toInt = some t.shown.toMillisecond := by
  have hoffset (ahead : Int) (h : ahead ∈ (Host.zone.showing t.seconds).offsets) :
      Host.zone.offset (t.seconds - ahead) = ahead :=
    (Host.zone.offset_eq_iff t.seconds ahead).mpr h
  unfold inRange at hrange
  unfold toMillis shown
  cases hshowing : Host.zone.showing t.seconds with
  | once ahead =>
    simp only [hshowing, Showing.offsets, List.mem_singleton] at hrange hoffset
    dsimp only
    rw [if_pos hrange]
    exact ofMillis?_millisAhead hnano hrange (hoffset ahead rfl)
  | twice earlier later =>
    simp only [hshowing, Showing.offsets] at hrange hoffset
    dsimp only
    rw [if_pos hrange]
    exact ofMillis?_millisAhead hnano (Bool.and_eq_true_iff.mp hrange).1
      (hoffset earlier List.mem_cons_self)
  | skipped =>
    simp only [hshowing] at hrange
    obtain ⟨u, hu⟩ := Option.isSome_iff_exists.mp hrange
    dsimp only
    rw [hu, Option.getD_some]
    exact ofMillis?_universalMillis hnano hu

end DateTime

end SqlGateway
