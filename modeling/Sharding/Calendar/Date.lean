/-!
# Dates

Days of the Gregorian calendar, extended to all years from -262143 to 262142, and their distance
in days.
-/

set_option autoImplicit false

namespace Sharding.Calendar

def isLeapYear (year : Int) : Bool :=
  year % 4 = 0 && (year % 100 ≠ 0 || year % 400 = 0)

def daysInMonth (year : Int) : Nat → Nat
  | 2 => if isLeapYear year then 29 else 28
  | 4 => 30
  | 6 => 30
  | 9 => 30
  | 11 => 30
  | _ => 31

structure Date where
  year : Int
  month : Nat
  day : Nat
  year_ge : -262143 ≤ year
  year_le : year ≤ 262142
  month_pos : 1 ≤ month
  month_le : month ≤ 12
  day_pos : 1 ≤ day
  day_le : day ≤ daysInMonth year month
  deriving DecidableEq, Repr

namespace Date

def ofFields? (year : Int) (month day : Nat) : Option Date :=
  if h : (-262143 ≤ year ∧ year ≤ 262142) ∧ (1 ≤ month ∧ month ≤ 12) ∧
      1 ≤ day ∧ day ≤ daysInMonth year month then
    some
      { year, month, day
        year_ge := h.1.1, year_le := h.1.2, month_pos := h.2.1.1, month_le := h.2.1.2
        day_pos := h.2.2.1, day_le := h.2.2.2 }
  else none

theorem ofFields?_self (date : Date) : ofFields? date.year date.month date.day = some date := by
  rw [ofFields?, dif_pos ⟨⟨date.year_ge, date.year_le⟩, ⟨date.month_pos, date.month_le⟩,
    date.day_pos, date.day_le⟩]

end Date

/-- The days from the first day of year 1 to the first day of a year. -/
def daysBeforeYear (year : Int) : Int :=
  let past := year - 1
  365 * past + past / 4 - past / 100 + past / 400

/-- The days of a year before the first day of a month, counting months from one. -/
def daysBeforeMonth (year : Int) : Nat → Nat
  | 0 => 0
  | 1 => 0
  | month + 1 => daysBeforeMonth year month + daysInMonth year month

def Date.dayNumber (date : Date) : Int :=
  daysBeforeYear date.year + daysBeforeMonth date.year date.month + date.day - 1

end Sharding.Calendar
