import Sharding.Proofs.Key.Layout

/-!
# Waiting for the clock

A draw waits by reading the clock and sleeping on it, again and again: for the millisecond of the
last key if the clock is behind it, and for a later one if the sequences of a millisecond are used
up. Here both waits are loops that may go on forever, related to how they end, around the steps in
which the state of the generator changes. Unless a difference of milliseconds leaves the words,
they end just as `Snowflake.draw` says, after two sleeps at most, and a clock that is too far behind
is left alone.
-/

set_option autoImplicit false

namespace Sharding

open scoped Word

/-! ## Loops -/

/-- A wait so far: what the clock shows by now, and the sleeps on it in order. -/
structure Wait where
  clock : Clock
  sleeps : List Nat := []
  deriving DecidableEq, Repr

namespace Wait

def sleep (wait : Wait) (millis : Nat) : Wait :=
  ⟨wait.clock.sleep millis, wait.sleeps ++ [millis]⟩

/-- The wait goes on to another one in sleeps as brief as can be, until the clock is past a
millisecond. -/
inductive Past (millis : Clock) : Wait → Wait → Prop where
  | done {wait : Wait} : millis < wait.clock → Past millis wait wait
  | sleep {wait ended : Wait} : wait.clock ≤ millis → Past millis (wait.sleep 0) ended →
      Past millis wait ended

end Wait

namespace Snowflake

/-- The wait goes on in sleeps on a clock that is behind the last key, until it is not, or is behind
by the tolerance. -/
inductive WaitsFor (generator : Snowflake) (last : Clock) :
    Wait → Except Error Clock → Wait → Prop where
  | caughtUp {wait : Wait} : last ≤ wait.clock → WaitsFor generator last wait (.ok wait.clock) wait
  | tooFar {wait : Wait} : wait.clock < last → generator.tolerance ≤ last - wait.clock →
      WaitsFor generator last wait (.error (.clockMovedBack last wait.clock)) wait
  | sleep {wait ended : Wait} {result : Except Error Clock} : wait.clock < last →
      last - wait.clock < generator.tolerance →
      WaitsFor generator last (wait.sleep (last - wait.clock).toUInt64.toNat) result ended →
      WaitsFor generator last wait result ended

/-- What a draw that has come to an end leaves behind. -/
structure Attempt where
  result : Except Error Int64
  state : State
  wait : Wait

/-- The key with the sequence of the state, at the millisecond that the clock shows. -/
def Attempt.ofKey (generator : Snowflake) (state : State) (wait : Wait) : Attempt where
  result := .ok (generator.keyOf wait.clock state.sequence)
  state := { state with last := wait.clock }
  wait := wait

/-- A draw, with its waits, comes to an end with the attempt. The sequence moves on before the wait
for a later millisecond begins. -/
def Attempts (generator : Snowflake) (state : State) (clock : Clock) (attempt : Attempt) : Prop :=
  ∃ caught wait, generator.WaitsFor state.last { clock } caught wait ∧
    match caught with
    | .error error => attempt = { result := .error error, state, wait }
    | .ok now =>
      if now = state.last then
        let moved := { state with sequence := (state.sequence + 1) % sequences }
        ∃ later, (if moved.sequence = 0 then wait.Past now later else later = wait) ∧
          attempt = .ofKey generator moved later
      else attempt = .ofKey generator (state.newMillis generator.maxVibration now) wait

end Snowflake

/-! ## Words -/

namespace Clock

variable {clock last : Clock}

theorem sleep_zero (clock : Clock) : clock.sleep 0 = clock.advance 1 :=
  rfl

theorem toInt_sub_of_lag (behind : clock < last)
    (room : last.toInt - clock.toInt < 2 ^ (63 : Nat)) :
    (last - clock).toInt = last.toInt - clock.toInt := by
  have later := Int64.lt_iff_toInt_lt.mp behind
  rw [Int64.toInt_sub]
  exact Int.bmod_eq_of_le (by omega) (by omega)

/-- A sleep of the lag brings a clock that is behind to where it should be. -/
theorem sleep_lag (behind : clock < last) (room : last.toInt - clock.toInt < 2 ^ (63 : Nat)) :
    (last - clock).toUInt64.toNat = (last.toInt - clock.toInt).toNat ∧
      clock.sleep (last - clock).toUInt64.toNat = last := by
  have exact := toInt_sub_of_lag behind room
  have later := Int64.lt_iff_toInt_lt.mp behind
  have nonneg : 0 ≤ last - clock := by
    rw [Int64.le_iff_toInt_le, exact, Int64.toInt_zero]
    omega
  have lag : (last - clock).toUInt64.toNat = (last.toInt - clock.toInt).toNat := by
    rw [Int64.toNat_toUInt64_of_le nonneg, ← exact]
    rfl
  refine ⟨lag, ?_⟩
  have whole : Int64.ofNat (last.toInt - clock.toInt).toNat = last - clock := by
    rw [← Int64.ofInt_eq_ofNat, Int.toNat_of_nonneg (by omega), ← exact, Int64.ofInt_toInt]
  rw [sleep, lag, Nat.min_eq_left (by omega), Nat.max_eq_right (by omega), whole, advance,
    Int64.add_comm, Int64.sub_add_cancel]

end Clock

/-! ## How loops end -/

namespace Wait

variable {millis : Clock} {wait ended : Wait}

theorem past_iff : Past millis wait ended ↔
    if millis < wait.clock then ended = wait else Past millis (wait.sleep 0) ended := by
  constructor
  · intro past
    cases past with
    | done later => rw [if_pos later]
    | sleep early rest => rwa [if_neg (Int64.not_lt.mpr early)]
  · intro step
    split at step
    next later =>
      cases step
      exact .done later
    next early => exact .sleep (Int64.not_lt.mp early) step

theorem Past.lt_clock (past : Past millis wait ended) : millis < ended.clock := by
  induction past with
  | done later => exact later
  | sleep _ _ ih => exact ih

/-- From a millisecond on, one sleep is enough to get past it, unless no clock gets past it. -/
theorem past_self_iff {slept : List Nat} : Past millis ⟨millis, slept⟩ ended ↔
    millis ≠ Int64.maxValue ∧ ended = ⟨millis.advance 1, slept ++ [0]⟩ := by
  by_cases greatest : millis = Int64.maxValue
  · refine iff_of_false (fun past => ?_) fun ends => ends.1 greatest
    have later := Int64.lt_iff_toInt_lt.mp (greatest ▸ past.lt_clock)
    exact absurd (Int64.toInt_le ended.clock) (Int.not_le.mpr later)
  · have later : millis < millis.advance 1 := by
      rw [Int64.lt_iff_toInt_lt, Clock.toInt_advance_one_of_ne greatest]
      omega
    rw [past_iff, if_neg Int64.lt_irrefl, sleep, Clock.sleep_zero, past_iff, if_pos later]
    exact (and_iff_right greatest).symm

end Wait

namespace Snowflake

variable {generator : Snowflake} {last clock : Clock} {slept : List Nat} {wait ended : Wait}
  {result : Except Error Clock}

theorem waitsFor_iff : generator.WaitsFor last wait result ended ↔
    if last ≤ wait.clock then result = .ok wait.clock ∧ ended = wait
    else if generator.tolerance ≤ last - wait.clock then
      result = .error (.clockMovedBack last wait.clock) ∧ ended = wait
    else generator.WaitsFor last (wait.sleep (last - wait.clock).toUInt64.toNat) result ended := by
  constructor
  · intro waits
    cases waits with
    | caughtUp caughtUp =>
        rw [if_pos caughtUp]
        exact ⟨rfl, rfl⟩
    | tooFar behind tooFar =>
        rw [if_neg (Int64.not_le.mpr behind), if_pos tooFar]
        exact ⟨rfl, rfl⟩
    | sleep behind tolerated rest =>
        rwa [if_neg (Int64.not_le.mpr behind), if_neg (Int64.not_le.mpr tolerated)]
  · intro step
    split at step
    next caughtUp =>
      obtain ⟨rfl, rfl⟩ := step
      exact .caughtUp caughtUp
    next behind =>
      rw [Int64.not_le] at behind
      split at step
      next tooFar =>
        obtain ⟨rfl, rfl⟩ := step
        exact .tooFar behind tooFar
      next tolerated => exact .sleep behind (Int64.not_le.mp tolerated) step

theorem waitsFor_iff_of_le (caughtUp : last ≤ clock) :
    generator.WaitsFor last ⟨clock, slept⟩ result ended ↔
      result = .ok clock ∧ ended = ⟨clock, slept⟩ := by
  rw [waitsFor_iff, if_pos caughtUp]

theorem waitsFor_iff_of_tooFar (behind : clock < last)
    (room : last.toInt - clock.toInt < 2 ^ (63 : Nat))
    (tooFar : generator.tolerance.toInt ≤ last.toInt - clock.toInt) :
    generator.WaitsFor last ⟨clock, slept⟩ result ended ↔
      result = .error (.clockMovedBack last clock) ∧ ended = ⟨clock, slept⟩ := by
  rw [waitsFor_iff, if_neg (Int64.not_le.mpr behind), if_pos]
  rw [Int64.le_iff_toInt_le, Clock.toInt_sub_of_lag behind room]
  exact tooFar

theorem waitsFor_iff_of_tolerated (behind : clock < last)
    (tolerated : last.toInt - clock.toInt < generator.tolerance.toInt) :
    generator.WaitsFor last ⟨clock, slept⟩ result ended ↔
      result = .ok last ∧ ended = ⟨last, slept ++ [(last.toInt - clock.toInt).toNat]⟩ := by
  have room := Int.lt_trans tolerated (Int64.toInt_lt generator.tolerance)
  obtain ⟨lag, caughtUp⟩ := Clock.sleep_lag behind room
  rw [waitsFor_iff, if_neg (Int64.not_le.mpr behind), if_neg]
  · rw [Wait.sleep, caughtUp, lag, waitsFor_iff_of_le (Int64.le_refl last)]
  · rw [Int64.not_le, Int64.lt_iff_toInt_lt, Clock.toInt_sub_of_lag behind room]
    exact tolerated

/-! ## Draws with waits -/

/-- The clock is behind the last key by the tolerance or more. -/
def Refuses (generator : Snowflake) (before : Snapshot) : Prop :=
  before.clock.toInt < before.state.last.toInt ∧
    generator.tolerance.toInt ≤ before.state.last.toInt - before.clock.toInt

instance (generator : Snowflake) (before : Snapshot) : Decidable (generator.Refuses before) :=
  inferInstanceAs (Decidable (_ ∧ _))

/-- The next key belongs to the millisecond of the last one, and its sequence wraps to zero. -/
def Snapshot.Wraps (before : Snapshot) : Prop :=
  before.clock.toInt ≤ before.state.last.toInt ∧ (before.state.sequence + 1) % sequences = 0

instance (before : Snapshot) : Decidable before.Wraps :=
  inferInstanceAs (Decidable (_ ∧ _))

/-- The sleeps of a draw that succeeds: the lag of the clock, and one as short as can be if the
sequence wraps. -/
def Snapshot.sleeps (before : Snapshot) : List Nat :=
  (if before.clock < before.state.last then
    [(before.state.last.toInt - before.clock.toInt).toNat] else []) ++
  if before.Wraps then [0] else []

variable {before : Snapshot}

theorem catchUp_of_refuses (refuses : generator.Refuses before) :
    generator.catchUp before.state.last before.clock =
      .error (.clockMovedBack before.state.last before.clock) := by
  obtain ⟨behind, tooFar⟩ := refuses
  have notCaughtUp : ¬ before.state.last ≤ before.clock := by
    rw [Int64.not_le, Int64.lt_iff_toInt_lt]
    exact behind
  rw [catchUp, if_neg notCaughtUp, if_pos tooFar]

theorem catchUp_of_not_refuses (accepts : ¬ generator.Refuses before) :
    generator.catchUp before.state.last before.clock =
      .ok (if before.state.last ≤ before.clock then before.clock else before.state.last) := by
  unfold catchUp
  split
  · rfl
  next behind =>
    refine if_neg fun tooFar => accepts ⟨?_, tooFar⟩
    rwa [Int64.not_le, Int64.lt_iff_toInt_lt] at behind

/-- The reading that a draw starts from once it has waited for the last key. -/
def Snapshot.start (before : Snapshot) : Clock :=
  if before.state.last ≤ before.clock then before.clock else before.state.last

theorem Snapshot.start_eq_last_iff :
    before.start = before.state.last ↔ before.clock.toInt ≤ before.state.last.toInt := by
  unfold start
  split
  next caughtUp =>
    rw [Int64.le_iff_toInt_le] at caughtUp
    rw [← Int64.toInt_inj]
    omega
  next behind =>
    rw [Int64.le_iff_toInt_le] at behind
    simp only [true_iff]
    omega

theorem Snapshot.toInt_start :
    before.start.toInt = max before.clock.toInt before.state.last.toInt := by
  unfold start
  split
  next caughtUp =>
    rw [Int64.le_iff_toInt_le] at caughtUp
    omega
  next behind =>
    rw [Int64.le_iff_toInt_le] at behind
    omega

theorem Snapshot.wraps_iff :
    before.Wraps ↔
      before.start = before.state.last ∧ (before.state.sequence + 1) % sequences = 0 := by
  rw [Wraps, start_eq_last_iff]

theorem draw_of_not_refuses (accepts : ¬ generator.Refuses before) :
    generator.draw before.state before.clock = .ok {
      key := generator.keyOf (before.state.after generator before.start).last
        (before.state.after generator before.start).sequence
      state := before.state.after generator before.start
      clock := (before.state.after generator before.start).last } :=
  draw_eq_ok_iff.mpr ⟨before.start, catchUp_of_not_refuses accepts, rfl⟩

theorem waitsFor_iff_of_not_refuses (accepts : ¬ generator.Refuses before) :
    generator.WaitsFor before.state.last { clock := before.clock } result ended ↔
      result = .ok before.start ∧ ended = ⟨before.start, if before.clock < before.state.last then
        [(before.state.last.toInt - before.clock.toInt).toNat] else []⟩ := by
  unfold Snapshot.start
  split
  next caughtUp => rw [if_neg (Int64.not_lt.mpr caughtUp), waitsFor_iff_of_le caughtUp]
  next behind =>
    rw [Int64.not_le] at behind
    have tolerated : before.state.last.toInt - before.clock.toInt < generator.tolerance.toInt :=
      Int.not_le.mp fun tooFar => accepts ⟨Int64.lt_iff_toInt_lt.mp behind, tooFar⟩
    rw [if_pos behind, waitsFor_iff_of_tolerated behind tolerated]
    rfl

variable {attempt : Attempt}

/-- A draw that is not refused ends as it does at once, after its sleeps, or waits for a
millisecond past the greatest word and never ends. -/
theorem attempts_iff_of_not_refuses (accepts : ¬ generator.Refuses before) {drawn : Draw}
    (drew : generator.draw before.state before.clock = .ok drawn) :
    generator.Attempts before.state before.clock attempt ↔
      ¬ (before.Wraps ∧ before.state.last = Int64.maxValue) ∧
        attempt = { result := .ok drawn.key, state := drawn.state
                    wait := ⟨drawn.clock, before.sleeps⟩ } := by
  rw [draw_of_not_refuses accepts] at drew
  cases drew
  simp only [Attempts, waitsFor_iff_of_not_refuses accepts, and_assoc, exists_and_left,
    exists_eq_left, Snapshot.sleeps, Snapshot.wraps_iff, State.after]
  by_cases same : before.start = before.state.last
  · by_cases usedUp : (before.state.sequence + 1) % sequences = 0
    · simp only [same, usedUp, Wait.past_self_iff, State.sameMillis, if_true, true_and, and_assoc,
        exists_and_left, exists_eq_left]
      rfl
    · simp only [same, usedUp, State.sameMillis, if_true, if_false, and_false, false_and,
        List.append_nil, Attempt.ofKey, exists_eq_left, not_false_eq_true, true_and]
  · simp only [same, if_false, false_and, List.append_nil, not_false_eq_true, true_and]
    rfl

theorem attempts_iff_of_refuses (refuses : generator.Refuses before)
    (room : before.state.last.toInt - before.clock.toInt < 2 ^ (63 : Nat)) :
    generator.Attempts before.state before.clock attempt ↔
      attempt = { result := .error (.clockMovedBack before.state.last before.clock)
                  state := before.state, wait := { clock := before.clock } } := by
  have behind : before.clock < before.state.last := Int64.lt_iff_toInt_lt.mpr refuses.1
  simp only [Attempts, waitsFor_iff_of_tooFar behind room refuses.2, and_assoc, exists_and_left,
    exists_eq_left]

theorem draw_of_refuses (refuses : generator.Refuses before) :
    generator.draw before.state before.clock =
      .error (.clockMovedBack before.state.last before.clock) := by
  rw [draw, catchUp_of_refuses refuses]
  rfl

theorem toInt_last_after (notGreatest : before.state.last ≠ Int64.maxValue) :
    (before.state.after generator before.start).last.toInt =
      max before.clock.toInt before.state.last.toInt + if before.Wraps then 1 else 0 := by
  rw [← Snapshot.toInt_start, State.after, State.sameMillis]
  simp only [Snapshot.wraps_iff]
  by_cases same : before.start = before.state.last
  · by_cases usedUp : (before.state.sequence + 1) % sequences = 0
    · simp only [same, usedUp, if_true, true_and, Clock.toInt_advance_one_of_ne notGreatest]
    · simp [same, usedUp]
  · simp [same, State.newMillis]

theorem Snapshot.wraps_iff_sequence {drawn : Draw}
    (drew : generator.draw before.state before.clock = .ok drawn)
    (accepts : ¬ generator.Refuses before) :
    before.Wraps ↔
      before.clock.toInt ≤ before.state.last.toInt ∧ drawn.state.sequence = 0 := by
  rw [draw_of_not_refuses accepts] at drew
  cases drew
  refine and_congr_right fun notLater => ?_
  rw [← start_eq_last_iff] at notLater
  dsimp only
  rw [State.after, if_pos notLater, State.sameMillis]
  split
  next usedUp => exact iff_of_true usedUp rfl
  next unused => exact iff_of_false unused unused

theorem Snapshot.sleeps_eq_nil_iff :
    before.sleeps = [] ↔ before.state.last ≤ before.clock ∧ ¬ before.Wraps := by
  rw [sleeps, List.append_eq_nil_iff, ← Int64.not_lt]
  exact and_congr (by split <;> simp_all) (by split <;> simp_all)

end Snowflake

/-- The millisecond lies in the middle half of the words, where no sum and no difference leaves the
words. -/
def Clock.InHalf (clock : Clock) : Prop :=
  -2 ^ (62 : Nat) ≤ clock.toInt ∧ clock.toInt < 2 ^ (62 : Nat)

instance (clock : Clock) : Decidable clock.InHalf :=
  inferInstanceAs (Decidable (_ ∧ _))

/-- Every draw comes to an end. A clock that is behind the last key by the tolerance or more makes
it fail without a trace, so a run goes on as if there had been no draw. Any other clock is slept on
until it is at the last key, and once more if the sequence wraps to zero, and the key is drawn
then. There is no sleep on a clock that is not behind unless the sequence wraps. -/
theorem draws_wait_exactly (generator : Snowflake) (before : Snowflake.Snapshot)
    (lastHalf : before.state.last.InHalf) (clockHalf : before.clock.InHalf) :
    (generator.Refuses before →
      (∀ attempt, generator.Attempts before.state before.clock attempt ↔
        attempt = { result := .error (.clockMovedBack before.state.last before.clock)
                    state := before.state, wait := { clock := before.clock, sleeps := [] } }) ∧
      generator.draw before.state before.clock =
        .error (.clockMovedBack before.state.last before.clock) ∧
      generator.afterDraw before = before ∧
      ∀ steps, (generator.draws before (.draw :: steps)).filterMap generator.key? =
        (generator.draws before steps).filterMap generator.key?) ∧
    (¬ generator.Refuses before → ∃ drawn,
      generator.draw before.state before.clock = .ok drawn ∧
      (∀ attempt, generator.Attempts before.state before.clock attempt ↔
        attempt = { result := .ok drawn.key, state := drawn.state
                    wait := { clock := drawn.clock, sleeps := before.sleeps } }) ∧
      drawn.clock.toInt = max before.clock.toInt before.state.last.toInt +
        (if before.Wraps then 1 else 0) ∧
      (before.Wraps ↔
        before.clock.toInt ≤ before.state.last.toInt ∧ drawn.state.sequence = 0)) ∧
    (before.sleeps = [] ↔ before.state.last ≤ before.clock ∧ ¬ before.Wraps) := by
  have room : before.state.last.toInt - before.clock.toInt < 2 ^ (63 : Nat) := by
    unfold Clock.InHalf at lastHalf clockHalf
    omega
  have notGreatest : before.state.last ≠ Int64.maxValue := by
    intro greatest
    have bound := lastHalf.2
    rw [greatest, Int64.toInt_maxValue] at bound
    exact absurd bound (by decide)
  refine ⟨fun refuses => ?_, fun accepts => ?_, Snowflake.Snapshot.sleeps_eq_nil_iff⟩
  · have fails := Snowflake.draw_of_refuses refuses
    have stays : generator.afterDraw before = before := by simp only [Snowflake.afterDraw, fails]
    have noKey : generator.key? before = none := by simp only [Snowflake.key?, fails]
    refine ⟨fun _ => Snowflake.attempts_iff_of_refuses refuses room, fails, stays,
      fun steps => ?_⟩
    rw [Snowflake.draws, stays, List.filterMap_cons_none noKey]
  · have drew := Snowflake.draw_of_not_refuses accepts
    refine ⟨_, drew, fun attempt => ?_, Snowflake.toInt_last_after notGreatest,
      Snowflake.Snapshot.wraps_iff_sequence drew accepts⟩
    rw [Snowflake.attempts_iff_of_not_refuses accepts drew,
      and_iff_right fun never => notGreatest never.2]

private def slowGenerator : Snowflake :=
  ⟨Snowflake.defaultEpoch, 3, 7, 10, by decide, by decide⟩

/-- The sequences of the last millisecond are used up. -/
private def usedUp : Snowflake.State :=
  { last := 1477958401000, sequence := 4095, nextOffset := 1 }

/-- A clock that is behind by the tolerance is left alone. One that is behind by less is slept on
twice, since no sequence is left. -/
theorem slow_draws_wait_exactly :
    (Clock.InHalf 1477958401000 ∧ Clock.InHalf 1477958400990 ∧ Clock.InHalf 1477958400991) ∧
    slowGenerator.Refuses ⟨usedUp, 1477958400990⟩ ∧
    slowGenerator.afterDraw ⟨usedUp, 1477958400990⟩ = ⟨usedUp, 1477958400990⟩ ∧
    ¬ slowGenerator.Refuses ⟨usedUp, 1477958400991⟩ ∧
    Snowflake.Snapshot.sleeps ⟨usedUp, 1477958400991⟩ = [9, 0] ∧
    ∃ found, slowGenerator.Attempts usedUp 1477958400991 found ∧
      found.state = ⟨1477958401001, 0, 1⟩ ∧ found.wait = ⟨1477958401001, [9, 0]⟩ := by
  have last : Clock.InHalf 1477958401000 := by decide +kernel
  have tooFar : Clock.InHalf 1477958400990 := by decide +kernel
  have tolerated : Clock.InHalf 1477958400991 := by decide +kernel
  have refuses : slowGenerator.Refuses ⟨usedUp, 1477958400990⟩ := by decide +kernel
  have accepts : ¬ slowGenerator.Refuses ⟨usedUp, 1477958400991⟩ := by decide +kernel
  have sleeps : Snowflake.Snapshot.sleeps ⟨usedUp, 1477958400991⟩ = [9, 0] := by decide +kernel
  obtain ⟨-, -, stays, -⟩ :=
    (draws_wait_exactly slowGenerator ⟨usedUp, 1477958400990⟩ last tooFar).1 refuses
  obtain ⟨drawn, drew, ended, -, -⟩ :=
    (draws_wait_exactly slowGenerator ⟨usedUp, 1477958400991⟩ last tolerated).2.1 accepts
  have known : slowGenerator.draw usedUp 1477958400991 =
      .ok ⟨4198510592, ⟨1477958401001, 0, 1⟩, 1477958401001⟩ := by
    decide +kernel
  cases drew.symm.trans known
  exact ⟨⟨last, tooFar, tolerated⟩, refuses, stays, accepts, sleeps, _,
    (ended _).mpr rfl, rfl, by rw [sleeps]⟩

end Sharding
