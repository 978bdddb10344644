import Sharding.Calendar.DateTime

/-!
# Distances of datetimes

How far two datetimes can be apart. All of them lie within some six hundred thousand years.
-/

set_option autoImplicit false

namespace Sharding.Calendar

theorem daysInMonth_le (year : Int) (month : Nat) : daysInMonth year month ≤ 31 := by
  unfold daysInMonth
  split <;> (try split) <;> omega

theorem daysBeforeMonth_le (year : Int) (month : Nat) :
    daysBeforeMonth year month ≤ 31 * month := by
  fun_induction daysBeforeMonth year month with
  | case1 => exact Nat.zero_le _
  | case2 => exact Nat.zero_le _
  | case3 month different ih =>
      have days := daysInMonth_le year month
      omega

theorem Date.dayNumber_bounds (date : Date) :
    -100000000 ≤ date.dayNumber ∧ date.dayNumber ≤ 100000000 := by
  have after := date.year_ge
  have before := date.year_le
  have months := daysBeforeMonth_le date.year date.month
  have month := date.month_le
  have day := date.day_le
  have length := daysInMonth_le date.year date.month
  unfold Date.dayNumber daysBeforeYear
  dsimp only
  constructor <;> omega

theorem TimeOfDay.secondOfDay_lt (time : TimeOfDay) : time.secondOfDay < 86400 := by
  have hour := time.hour_lt
  have minute := time.minute_lt
  have second := time.second_lt
  unfold TimeOfDay.secondOfDay
  omega

namespace DateTime

theorem leapBetween_le (start finish : TimeOfDay) : leapBetween start finish ≤ 1 := by
  unfold leapBetween
  split <;> split <;> omega

theorem secondsBetween_le (start finish : DateTime) :
    secondsBetween start finish ≤ 20000000000000 := by
  have days := finish.date.dayNumber_bounds
  have daysBefore := start.date.dayNumber_bounds
  have seconds := finish.time.secondOfDay_lt
  have leap := leapBetween_le start.time finish.time
  have nanos := finish.time.nano_lt
  have within : nanosBetween start finish ≤ 20000000000000 * (nanosPerSecond : Nat) := by
    unfold nanosBetween
    unfold nanosPerSecond at nanos ⊢
    dsimp only
    omega
  have quotient := Int.tdiv_le_tdiv (c := nanosPerSecond) (by decide) within
  rwa [Int.mul_tdiv_cancel _ (by decide)] at quotient

end DateTime

end Sharding.Calendar
