import SqlGateway.Proofs.Calendar.Date

/-! What a time of day or a date-time is written as is read as that time, leap seconds included. -/

namespace SqlGateway

open Calendar

namespace TimeOfDay

/-- The seconds that a clock shows, 60 in a leap second. -/
def shownSecond (t : TimeOfDay) : Nat := t.second % 60 + t.nano / 1000000000

/-- The text of a time behind its minutes. -/
def secondsChars (t : TimeOfDay) : List Char :=
  ':' :: (paddedDigits 2 t.shownSecond ++ fractionChars (t.nano % 1000000000))

theorem ofClock?_shownSecond (t : TimeOfDay) :
    ofClock? (t.second / 3600) (t.second / 60 % 60) t.shownSecond (t.nano % 1000000000) = some t := by
  have hsecond := t.second_lt
  have hnano := t.nano_lt
  have hin : t.second < 86400 ∧ t.nano < 2000000000 ∧
      (1000000000 ≤ t.nano → t.second % 60 = 59) := ⟨t.second_lt, t.nano_lt, t.leap⟩
  rw [ofClock?, if_pos (by simp; omega), shownSecond]
  split
  · next hplain =>
    have hshort : t.nano < 1000000000 := by
      by_cases hleap : 1000000000 ≤ t.nano
      · have := t.leap hleap
        omega
      · omega
    have hsum : 3600 * (t.second / 3600) + 60 * (t.second / 60 % 60)
        + (t.second % 60 + t.nano / 1000000000) = t.second := by omega
    rw [hsum, Nat.mod_eq_of_lt hshort, ofSeconds?, dif_pos hin]
  · next hshown =>
    have hlong : t.second % 60 = 59 ∧ 1000000000 ≤ t.nano := by omega
    have hsum : 3600 * (t.second / 3600) + 60 * (t.second / 60 % 60) + 59 = t.second := by omega
    have hfraction : t.nano % 1000000000 + 1000000000 = t.nano := by omega
    rw [if_pos (by omega), hsum, hfraction, ofSeconds?, dif_pos hin]

theorem hourMinute?_toChars (t : TimeOfDay) :
    hourMinute? t.toChars = some ((t.second / 3600, t.second / 60 % 60), t.secondsChars) := by
  have hsecond := t.second_lt
  have hhour (rest : List Char) :
      number? 2 (paddedDigits 2 (t.second / 3600) ++ rest) = some (t.second / 3600, rest) :=
    number?_paddedDigits (by decide) (by omega) rest
  have hminute (rest : List Char) :
      number? 2 (paddedDigits 2 (t.second / 60 % 60) ++ rest) = some (t.second / 60 % 60, rest) :=
    number?_paddedDigits (by decide) (by omega) rest
  rw [toChars, List.append_assoc, List.append_assoc, List.cons_append, List.cons_append, hourMinute?]
  simp only [Option.bind_eq_bind, hhour, hminute, separator?_cons (show isBlank ':' = false from rfl),
    Option.bind_some]
  rfl

theorem seconds?_secondsChars (t : TimeOfDay) :
    seconds? t.secondsChars = some ((t.shownSecond, t.nano % 1000000000), []) := by
  have hnano := t.nano_lt
  have hshown (rest : List Char) :
      number? 2 (paddedDigits 2 t.shownSecond ++ rest) = some (t.shownSecond, rest) :=
    number?_paddedDigits (by decide) (by rw [shownSecond]; omega) rest
  rw [secondsChars, seconds?]
  simp only [Option.bind_eq_bind, hshown, separator?_cons (show isBlank ':' = false from rfl),
    fraction?_fractionChars (Nat.mod_lt t.nano (show 0 < 1000000000 by decide)), Option.bind_some]
  rfl

theorem ofText?_text (t : TimeOfDay) : ofText? t.text = some t := by
  rw [ofText?, text, String.toList_ofList, hourMinute?_toChars]
  simp only [Option.bind_eq_bind, Option.bind_some, seconds?_secondsChars, Option.getD_some]
  exact t.ofClock?_shownSecond

end TimeOfDay

theorem DateTime.ofText?_isoText (t : DateTime) : ofText? t.isoText = some t := by
  rw [ofText?, isoText, String.toList_ofList, toChars, Date.date?_toChars]
  simp only [Option.bind_eq_bind, separator?_cons (show isBlank 'T' = false from rfl),
    TimeOfDay.hourMinute?_toChars, TimeOfDay.seconds?_secondsChars, TimeOfDay.ofClock?_shownSecond,
    Option.bind_some]
  rfl

end SqlGateway
