import Sharding.Calendar.Date

/-!
# Datetimes

Moments without a time zone, with nanoseconds and leap seconds. A leap second is the second after
second 59 of any minute: it has second 59 and a thousand million nanoseconds or more.
-/

set_option autoImplicit false

namespace Sharding.Calendar

def nanosPerSecond : Nat := 1000000000

/-- A time of day. Only second 59 has a leap second after it: a time that is read or put together
from its fields has no other. -/
structure TimeOfDay where
  hour : Nat
  minute : Nat
  second : Nat
  nano : Nat
  hour_lt : hour < 24
  minute_lt : minute < 60
  second_lt : second < 60
  nano_lt : nano < 2 * nanosPerSecond
  leap : nanosPerSecond ≤ nano → second = 59
  deriving DecidableEq, Repr

namespace TimeOfDay

/-- The time with the given fields, where second 60 is a leap second. -/
def ofFields? (hour minute second nano : Nat) : Option TimeOfDay :=
  if h : hour < 24 ∧ minute < 60 ∧ second ≤ 60 ∧ nano < nanosPerSecond then
    if leap : second = 60 then
      some
        { hour, minute, second := 59, nano := nanosPerSecond + nano
          hour_lt := h.1, minute_lt := h.2.1, second_lt := by omega
          nano_lt := by omega, leap := fun _ => rfl }
    else
      some
        { hour, minute, second, nano
          hour_lt := h.1, minute_lt := h.2.1, second_lt := by omega
          nano_lt := by omega, leap := by omega }
  else none

/-- The whole seconds since midnight. A leap second has the number of the second before it. -/
def secondOfDay (time : TimeOfDay) : Nat :=
  3600 * time.hour + 60 * time.minute + time.second

def isLeap (time : TimeOfDay) : Bool :=
  nanosPerSecond ≤ time.nano

def clockSecond (time : TimeOfDay) : Nat :=
  if time.isLeap then 60 else time.second

def clockNano (time : TimeOfDay) : Nat :=
  if time.isLeap then time.nano - nanosPerSecond else time.nano

theorem ofFields?_self (time : TimeOfDay) :
    ofFields? time.hour time.minute time.clockSecond time.clockNano = some time := by
  obtain ⟨hour, minute, second, nano, hour_lt, minute_lt, second_lt, nano_lt, leap⟩ := time
  unfold ofFields? clockSecond clockNano isLeap
  dsimp only
  by_cases h : nanosPerSecond ≤ nano
  · have at59 := leap h
    subst at59
    have : nanosPerSecond + (nano - nanosPerSecond) = nano := by omega
    simp only [h, decide_true, if_true]
    rw [dif_pos (by omega)]
    simp only [this, dite_true]
  · simp only [h, decide_false, Bool.false_eq_true, if_false]
    rw [dif_pos (by omega), dif_neg (by omega)]

end TimeOfDay

structure DateTime where
  date : Date
  time : TimeOfDay
  deriving DecidableEq, Repr

namespace DateTime

/-- An earlier day, or an earlier second of the day, or fewer nanoseconds within it. -/
def Before (left right : DateTime) : Prop :=
  left.date.dayNumber < right.date.dayNumber ∨
    left.date.dayNumber = right.date.dayNumber ∧
      (left.time.secondOfDay < right.time.secondOfDay ∨
        left.time.secondOfDay = right.time.secondOfDay ∧ left.time.nano < right.time.nano)

instance : LT DateTime := ⟨Before⟩

instance : LE DateTime := ⟨fun left right => ¬ right < left⟩

instance (left right : DateTime) : Decidable (left < right) :=
  inferInstanceAs (Decidable (_ ∨ _))

instance (left right : DateTime) : Decidable (left ≤ right) :=
  inferInstanceAs (Decidable (¬ _))

/-- One second if a leap second lies between the two times of day, which counts it as real: the
earlier of two times in different seconds of the day is in it. -/
def leapBetween (start finish : TimeOfDay) : Int :=
  if start.secondOfDay < finish.secondOfDay then (if start.isLeap then 1 else 0)
  else if finish.secondOfDay < start.secondOfDay then (if finish.isLeap then -1 else 0)
  else 0

def nanosBetween (start finish : DateTime) : Int :=
  let days := finish.date.dayNumber - start.date.dayNumber
  let seconds : Int := finish.time.secondOfDay - start.time.secondOfDay
  let nanos : Int := finish.time.nano - start.time.nano
  (days * 86400 + seconds + leapBetween start.time finish.time) * nanosPerSecond + nanos

/-- The whole seconds from one datetime to another, truncated toward zero. -/
def secondsBetween (start finish : DateTime) : Int :=
  Int.tdiv (nanosBetween start finish) nanosPerSecond

end DateTime

end Sharding.Calendar
