import Sharding.Proofs.Calendar.Distance
import Sharding.Proofs.Calendar.Fields

/-!
# Order and distance of datetimes

The whole seconds from a datetime without a fraction grow with the datetime they lead to, with one
exception. Seen from a leap second, every earlier time of day lies before a leap second, on later
days too. A leap second at the end of a day is then one second farther away than the first second
of the next day.
-/

set_option autoImplicit false

namespace Sharding.Calendar

namespace TimeOfDay

/-- One within a leap second, else none. -/
def leapCount (time : TimeOfDay) : Nat :=
  if time.isLeap then 1 else 0

theorem nano_eq (time : TimeOfDay) :
    time.nano = time.leapCount * nanosPerSecond + time.clockNano := by
  unfold leapCount clockNano
  split
  next leap =>
    have inside : nanosPerSecond ≤ time.nano := of_decide_eq_true leap
    omega
  next => omega

theorem leapCount_le (time : TimeOfDay) : time.leapCount ≤ 1 := by
  unfold leapCount
  split <;> omega

theorem leapCount_eq_one_iff {time : TimeOfDay} : time.leapCount = 1 ↔ time.isLeap = true := by
  unfold leapCount
  split
  next leap => simp [leap]
  next plain => simp [plain]

theorem leapCount_mono {left right : TimeOfDay} (le : left.nano ≤ right.nano) :
    left.leapCount ≤ right.leapCount := by
  by_cases leap : left.isLeap = true
  · have inside : nanosPerSecond ≤ left.nano := of_decide_eq_true leap
    have after : right.isLeap = true := decide_eq_true (Nat.le_trans inside le)
    have leftCount := leapCount_eq_one_iff.mpr leap
    have rightCount := leapCount_eq_one_iff.mpr after
    omega
  · rw [leapCount, if_neg leap]
    exact Nat.zero_le _

theorem secondOfDay_of_leapCount {time : TimeOfDay} (leap : time.leapCount = 1) :
    59 ≤ time.secondOfDay := by
  have last := time.leap (of_decide_eq_true (leapCount_eq_one_iff.mp leap))
  unfold secondOfDay
  omega

end TimeOfDay

namespace DateTime

/-- A datetime that is read from a text has no fraction. -/
theorem clockNano_of_ofText? {text : String} {moment : DateTime}
    (read : ofText? text = some moment) : moment.time.clockNano = 0 := by
  simp only [ofText?, readPlain, bind, Option.bind_eq_some_iff, Prod.exists] at read
  obtain ⟨year, _, _, _, _, month, _, _, _, _, day, _, _, hour, _, _, _, _, minute, _, _, _, _,
    second, _, _, made⟩ := read
  split at made
  · exact (ofFields?_eq_some_iff.mp made).2.2.2.2
  · cases made

/-! ## Whole seconds -/

/-- The seconds from one time of day to another, with leap seconds. -/
def offset (start finish : TimeOfDay) : Int :=
  finish.secondOfDay - start.secondOfDay + leapBetween start finish + finish.leapCount -
    start.leapCount

def wholeSeconds (start finish : DateTime) : Int :=
  (finish.date.dayNumber - start.date.dayNumber) * 86400 + offset start.time finish.time

theorem nanosBetween_eq (start finish : DateTime) :
    nanosBetween start finish = wholeSeconds start finish * nanosPerSecond +
      finish.time.clockNano - start.time.clockNano := by
  have startNano := start.time.nano_eq
  have finishNano := finish.time.nano_eq
  unfold nanosBetween wholeSeconds offset
  unfold nanosPerSecond at startNano finishNano ⊢
  dsimp only
  omega

/-- Truncation only drops the fraction of the later datetime. Whatever lies before the start has no
seconds from it. -/
theorem toNat_secondsBetween {start finish : DateTime} (whole : start.time.clockNano = 0) :
    (secondsBetween start finish).toNat = (wholeSeconds start finish).toNat := by
  have fraction := finish.time.clock_bounds.2
  unfold secondsBetween
  rw [nanosBetween_eq, whole]
  unfold nanosPerSecond at fraction ⊢
  by_cases before : wholeSeconds start finish < 0
  · have negative := Int.tdiv_le_tdiv (c := (1000000000 : Nat)) (by decide)
      (show wholeSeconds start finish * (1000000000 : Nat) + finish.time.clockNano - (0 : Nat) ≤ 0
        by omega)
    rw [Int.zero_tdiv] at negative
    omega
  · rw [Int.tdiv_eq_ediv_of_nonneg (by omega)]
    omega

/-- The seconds to a time of day, by whether it is after the start, in the same second or
before. -/
theorem offset_cases (start finish : TimeOfDay) :
    (start.secondOfDay < finish.secondOfDay ∧
      offset start finish = finish.secondOfDay + finish.leapCount - start.secondOfDay) ∨
    (start.secondOfDay = finish.secondOfDay ∧
      offset start finish = finish.leapCount - start.leapCount) ∨
    (finish.secondOfDay < start.secondOfDay ∧
      offset start finish = finish.secondOfDay - start.secondOfDay - start.leapCount) := by
  unfold offset leapBetween TimeOfDay.leapCount
  rcases Nat.lt_trichotomy start.secondOfDay finish.secondOfDay with after | same | before
  · refine .inl ⟨after, ?_⟩
    rw [if_pos after]
    split <;> split <;> omega
  · refine .inr (.inl ⟨same, ?_⟩)
    rw [same, if_neg (Nat.lt_irrefl _), if_neg (Nat.lt_irrefl _)]
    omega
  · refine .inr (.inr ⟨before, ?_⟩)
    rw [if_neg (Nat.lt_asymm before), if_pos before]
    split <;> split <;> omega

theorem offset_le (start finish : TimeOfDay) : offset start finish ≤ 86400 := by
  have leap := finish.leapCount_le
  have less := finish.secondOfDay_lt
  rcases offset_cases start finish with ⟨_, offset⟩ | ⟨_, offset⟩ | ⟨_, offset⟩ <;> omega

theorem offset_mono (start : TimeOfDay) {earlier later : TimeOfDay}
    (ordered : earlier.secondOfDay < later.secondOfDay ∨
      earlier.secondOfDay = later.secondOfDay ∧ earlier.nano ≤ later.nano) :
    offset start earlier ≤ offset start later := by
  have earlierLeap := earlier.leapCount_le
  have sameSecond : earlier.secondOfDay = later.secondOfDay →
      earlier.leapCount ≤ later.leapCount := fun same =>
    TimeOfDay.leapCount_mono (ordered.resolve_left (by omega)).2
  rcases offset_cases start earlier with ⟨_, first⟩ | ⟨_, first⟩ | ⟨_, first⟩ <;>
    rcases offset_cases start later with ⟨_, second⟩ | ⟨_, second⟩ | ⟨_, second⟩ <;> omega

/-- The leap second at the end of a day and the first second of the next day, seen from a leap
second within an earlier day or the same. -/
structure Folds (start earlier later : DateTime) : Prop where
  fromLeap : start.time.isLeap = true
  inside : start.time.secondOfDay < 86399
  since : start.date.dayNumber ≤ earlier.date.dayNumber
  leap : earlier.time.isLeap = true
  last : earlier.time.secondOfDay = 86399
  next : later.date.dayNumber = earlier.date.dayNumber + 1
  first : later.time.secondOfDay = 0

theorem offset_next (start earlier later : TimeOfDay) :
    offset start earlier ≤ offset start later + 86400 ∨
      start.leapCount = 1 ∧ start.secondOfDay < 86399 ∧ earlier.leapCount = 1 ∧
        earlier.secondOfDay = 86399 ∧ later.secondOfDay = 0 ∧
        offset start earlier = offset start later + 86401 := by
  have startLeap := start.leapCount_le
  have earlierLeap := earlier.leapCount_le
  have laterLeap := later.leapCount_le
  have fromLeap : start.leapCount = 1 → 59 ≤ start.secondOfDay := TimeOfDay.secondOfDay_of_leapCount
  have startLess := start.secondOfDay_lt
  have earlierLess := earlier.secondOfDay_lt
  have laterLess := later.secondOfDay_lt
  rcases offset_cases start earlier with ⟨_, first⟩ | ⟨_, first⟩ | ⟨_, first⟩ <;>
    rcases offset_cases start later with ⟨_, second⟩ | ⟨_, second⟩ | ⟨_, second⟩ <;> omega

variable {start earlier later : DateTime}

theorem not_folds (plain : start.time.isLeap = false) : ¬ Folds start earlier later := by
  intro folds
  exact absurd folds.fromLeap (by simp [plain])

theorem Folds.wholeSeconds_eq (folds : Folds start earlier later) :
    wholeSeconds start earlier = wholeSeconds start later + 1 ∧ 0 < wholeSeconds start earlier := by
  have leap := TimeOfDay.leapCount_eq_one_iff.mpr folds.leap
  have fromLeap := TimeOfDay.leapCount_eq_one_iff.mpr folds.fromLeap
  have late := TimeOfDay.secondOfDay_of_leapCount fromLeap
  obtain ⟨_, inside, since, _, last, next, first⟩ := folds
  unfold wholeSeconds
  rcases offset_cases start.time earlier.time with ⟨_, near⟩ | ⟨_, near⟩ | ⟨_, near⟩ <;>
    rcases offset_cases start.time later.time with ⟨_, far⟩ | ⟨_, far⟩ | ⟨_, far⟩ <;> omega

/-- From one datetime to later ones the whole seconds grow, unless they are those of a leap second
that folds onto the day after it. -/
theorem toNat_wholeSeconds_le_iff (ordered : earlier ≤ later) :
    (wholeSeconds start earlier).toNat ≤ (wholeSeconds start later).toNat ↔
      ¬ Folds start earlier later := by
  constructor
  · intro le folds
    have farther := folds.wholeSeconds_eq
    omega
  · intro kept
    have unordered : ¬ Before later earlier := ordered
    unfold Before at unordered
    have earlierOffset := offset_le start.time earlier.time
    unfold wholeSeconds
    rcases Int.lt_trichotomy earlier.date.dayNumber later.date.dayNumber with day | same | day
    · rcases offset_next start.time earlier.time later.time with
        le | ⟨fromLeap, inside, leap, last, first, far⟩
      · omega
      · by_cases next : later.date.dayNumber = earlier.date.dayNumber + 1 ∧
            start.date.dayNumber ≤ earlier.date.dayNumber
        · exact absurd ⟨TimeOfDay.leapCount_eq_one_iff.mp fromLeap, inside, next.2,
            TimeOfDay.leapCount_eq_one_iff.mp leap, last, next.1, first⟩ kept
        · omega
    · have le := offset_mono start.time (show
        earlier.time.secondOfDay < later.time.secondOfDay ∨
          earlier.time.secondOfDay = later.time.secondOfDay ∧ earlier.time.nano ≤ later.time.nano
        by omega)
      omega
    · omega

end DateTime

end Sharding.Calendar
