import Mathlib.Logic.Basic
import Sharding.Calendar.Text

/-!
# Fields of datetimes

Fields make up a datetime if they are in their ranges, and it is the one that shows them on
calendar and clock.
-/

set_option autoImplicit false

namespace Sharding.Calendar

theorem Date.ofFields?_eq_some_iff {year : Int} {month day : Nat} {date : Date} :
    ofFields? year month day = some date ↔
      date.year = year ∧ date.month = month ∧ date.day = day := by
  constructor
  · intro found
    unfold ofFields? at found
    split at found
    next =>
      cases found
      exact ⟨rfl, rfl, rfl⟩
    next => cases found
  · rintro ⟨rfl, rfl, rfl⟩
    exact ofFields?_self date

namespace TimeOfDay

variable {hour minute second nano : Nat}

theorem ofFields?_eq_some_iff {time : TimeOfDay} :
    ofFields? hour minute second nano = some time ↔
      time.hour = hour ∧ time.minute = minute ∧ time.clockSecond = second ∧
        time.clockNano = nano := by
  constructor
  · intro found
    unfold ofFields? at found
    split at found
    next within =>
      split at found
      next leap =>
        cases found
        simp [clockSecond, clockNano, isLeap, leap]
      next =>
        cases found
        have short : ¬ nanosPerSecond ≤ nano := by omega
        simp [clockSecond, clockNano, isLeap, short]
    next => cases found
  · rintro ⟨rfl, rfl, rfl, rfl⟩
    exact ofFields?_self time

theorem exists_ofFields?_iff :
    (∃ time, ofFields? hour minute second nano = some time) ↔
      hour < 24 ∧ minute < 60 ∧ second ≤ 60 ∧ nano < nanosPerSecond := by
  unfold ofFields?
  split
  next within => split <;> simpa using within
  next outside => simpa using outside

theorem clock_bounds (time : TimeOfDay) :
    time.clockSecond ≤ 60 ∧ time.clockNano < nanosPerSecond :=
  (exists_ofFields?_iff.mp ⟨time, ofFields?_self time⟩).2.2

end TimeOfDay

theorem DateTime.ofFields?_eq_some_iff {year : Int} {month day hour minute second nano : Nat}
    {moment : DateTime} :
    ofFields? year month day hour minute second nano = some moment ↔
      (moment.date.year = year ∧ moment.date.month = month ∧ moment.date.day = day) ∧
        moment.time.hour = hour ∧ moment.time.minute = minute ∧
          moment.time.clockSecond = second ∧ moment.time.clockNano = nano := by
  rw [← Date.ofFields?_eq_some_iff, ← TimeOfDay.ofFields?_eq_some_iff]
  constructor
  · intro found
    obtain ⟨date, dated, timed⟩ := Option.bind_eq_some_iff.mp found
    obtain ⟨time, timeFound, same⟩ := Option.bind_eq_some_iff.mp timed
    cases same
    exact ⟨dated, timeFound⟩
  · rintro ⟨dated, timed⟩
    exact Option.bind_eq_some_iff.mpr ⟨_, dated, Option.bind_eq_some_iff.mpr ⟨_, timed, rfl⟩⟩

end Sharding.Calendar
