import Sharding.Key.Snowflake
import Sharding.Proofs.Outcome

/-!
# Draws

What one draw does to the state of a generator, and the exact number behind the key it gives. A
draw moves the pair of last millisecond and sequence forward in lexicographic order, whichever way
it takes: within a millisecond, to a new one, or past a used up one.
-/

set_option autoImplicit false

namespace Sharding

open scoped Word

theorem Clock.toInt_advance_one_of_ne {clock : Clock}
    (notGreatest : clock ≠ Int64.maxValue) :
    (clock.advance 1).toInt = clock.toInt + 1 := by
  have lower := Int64.le_toInt clock
  have upper := Int64.toInt_lt clock
  have below : clock.toInt ≠ 2 ^ (63 : Nat) - 1 := fun greatest =>
    notGreatest (Int64.toInt_inj.mp (greatest.trans Int64.toInt_maxValue.symm))
  rw [advance, Int64.toInt_add]
  exact Int.bmod_eq_of_le (by simp; omega) (by simp; omega)

namespace Snowflake

/-- The exact value of the key with a millisecond and a sequence. -/
def exactKey (generator : Snowflake) (millis : Clock) (sequence : Nat) : Int :=
  (millis.toInt - generator.epoch.toInt) * 2 ^ (22 : Nat) +
    generator.worker * 2 ^ (12 : Nat) + sequence

/-- A key has room for the milliseconds from the epoch to the reading. -/
def InWindow (generator : Snowflake) (reading : Clock) : Prop :=
  generator.epoch.toInt ≤ reading.toInt ∧ reading.toInt < generator.epoch.toInt + 2 ^ (41 : Nat)

instance (generator : Snowflake) (reading : Clock) : Decidable (generator.InWindow reading) :=
  inferInstanceAs (Decidable (_ ∧ _))

structure State.Valid (generator : Snowflake) (state : State) : Prop where
  sequence_lt : state.sequence < sequences
  nextOffset_le : state.nextOffset ≤ generator.maxVibration

/-- The state after a key at a millisecond that is not before the last one. -/
def State.after (state : State) (generator : Snowflake) (now : Clock) : State :=
  if now = state.last then state.sameMillis now else state.newMillis generator.maxVibration now

theorem State.Valid.initial (generator : Snowflake) : State.Valid generator {} :=
  ⟨by decide, Nat.zero_le _⟩

theorem toInt_keyOf {generator : Snowflake} {millis : Clock} {sequence : Nat}
    (window : generator.InWindow millis) (small : sequence < sequences) :
    (generator.keyOf millis sequence).toInt = generator.exactKey millis sequence ∧
      0 ≤ generator.exactKey millis sequence := by
  obtain ⟨fromEpoch, untilEnd⟩ := window
  have workerBound := generator.worker_le
  unfold sequences at small
  have nonneg : 0 ≤ generator.exactKey millis sequence := by
    unfold exactKey
    omega
  refine ⟨Int64.toInt_ofInt_of_le (by unfold exactKey at nonneg; omega) ?_, nonneg⟩
  omega

theorem catchUp_eq_ok {generator : Snowflake} {last clock now : Clock}
    (caught : generator.catchUp last clock = .ok now) :
    last.toInt ≤ now.toInt ∧ (now = clock ∨ now = last) := by
  unfold catchUp at caught
  split at caught
  next ahead =>
    cases caught
    exact ⟨Int64.le_iff_toInt_le.mp ahead, .inl rfl⟩
  next behind =>
    split at caught
    · cases caught
    · cases caught
      exact ⟨Int.le_refl _, .inr rfl⟩

theorem draw_eq_ok_iff {generator : Snowflake} {state : State} {clock : Clock} {drawn : Draw} :
    generator.draw state clock = .ok drawn ↔
      ∃ now, generator.catchUp state.last clock = .ok now ∧
        drawn = {
          key :=
            generator.keyOf (state.after generator now).last (state.after generator now).sequence
          state := state.after generator now
          clock := (state.after generator now).last } := by
  simp only [draw, bind_eq_ok, pure_eq_ok, State.after, eq_comm (a := drawn)]

theorem State.Valid.after {generator : Snowflake} {state : State}
    (valid : state.Valid generator) (now : Clock) :
    (state.after generator now).Valid generator := by
  have vibration := generator.maxVibration_le
  obtain ⟨sequenceBound, offsetBound⟩ := valid
  unfold sequences at sequenceBound
  unfold State.after State.sameMillis State.newMillis
  split
  · split
    · exact ⟨Nat.zero_lt_succ _, offsetBound⟩
    · exact ⟨Nat.mod_lt _ (Nat.zero_lt_succ _), offsetBound⟩
  · constructor <;> dsimp only
    · unfold sequences
      omega
    · split <;> omega

/-- Two readings of one window lie too close for the clock to have wrapped around between them. -/
theorem toInt_advance_one {generator : Snowflake} {now : Clock} (before : generator.InWindow now)
    (after : generator.InWindow (now.advance 1)) : (now.advance 1).toInt = now.toInt + 1 := by
  refine Clock.toInt_advance_one_of_ne fun greatest => ?_
  have least : (now.advance 1).toInt = -2 ^ (63 : Nat) := by
    rw [greatest]
    rfl
  have fromEpoch := after.1
  have untilEnd := before.2
  rw [least] at fromEpoch
  rw [greatest, Int64.toInt_maxValue] at untilEnd
  omega

/-- A draw goes on to a later millisecond or to a higher sequence of the same one. -/
theorem State.Valid.after_advances {generator : Snowflake} {state : State}
    (valid : state.Valid generator) {now : Clock} (notBehind : state.last.toInt ≤ now.toInt)
    (started : generator.InWindow now)
    (ended : generator.InWindow (state.after generator now).last) :
    state.last.toInt < (state.after generator now).last.toInt ∨
      state.last = (state.after generator now).last ∧
        state.sequence < (state.after generator now).sequence := by
  have sequenceBound := valid.sequence_lt
  unfold sequences at sequenceBound
  unfold State.after at ended ⊢
  split at ended
  next same =>
    rw [if_pos same]
    unfold State.sameMillis sequences at ended ⊢
    split at ended
    next usedUp =>
      rw [if_pos usedUp, toInt_advance_one started ended]
      exact .inl (by omega)
    next unused =>
      rw [if_neg unused]
      exact .inr ⟨same.symm, by dsimp only; omega⟩
  next later =>
    rw [if_neg later]
    left
    have different : now.toInt ≠ state.last.toInt := fun same => later (Int64.toInt_inj.mp same)
    simp only [State.newMillis]
    omega

theorem exactKey_lt {generator : Snowflake} {before after : State}
    (validBefore : before.Valid generator)
    (advances : before.last.toInt < after.last.toInt ∨
      before.last = after.last ∧ before.sequence < after.sequence) :
    generator.exactKey before.last before.sequence <
      generator.exactKey after.last after.sequence := by
  have sequenceBound := validBefore.sequence_lt
  unfold sequences at sequenceBound
  unfold exactKey
  rcases advances with later | ⟨same, higher⟩
  · omega
  · rw [same]
    omega

end Snowflake

end Sharding
