import Sharding.Proofs.Key.Waiting

/-!
# Rotation of offsets

The sequence of a new millisecond starts at an offset that rotates with the number of draws that
found a new millisecond, and with nothing else: a draw that fails, waits or uses up the sequences
of its millisecond leaves the rotation where it is.
-/

set_option autoImplicit false

namespace Sharding

namespace Snowflake

variable {generator : Snowflake}

/-! ## History of a run -/

/-- What holds of the draws before and the state that they leave, as each draw adds itself to them,
holds at every draw of a run. -/
theorem draws_induction (holds : List Snapshot → State → Prop)
    (step : ∀ front before, holds front before.state →
      holds (front ++ [before]) (generator.afterDraw before).state)
    {steps : List Step} {front rest : List Snapshot} {before : Snapshot} (start : Snapshot)
    (seen : List Snapshot) (initial : holds seen start.state)
    (split : generator.draws start steps = front ++ before :: rest) :
    holds (seen ++ front) before.state := by
  -- The draws seen so far grow at their end while the steps shrink at their beginning.
  induction steps generalizing seen front start with
  | nil => cases front <;> cases split
  | cons first steps ih =>
      cases first with
      | clock change => exact ih { start with clock := start.clock.apply change } seen initial split
      | draw =>
          cases front with
          | nil =>
              cases split
              rwa [List.append_nil]
          | cons found front =>
              obtain ⟨rfl, later⟩ := List.cons.inj split
              rw [← List.singleton_append, ← List.append_assoc]
              exact ih _ _ (step seen start initial) later

/-- The draw that a snapshot leads to, if it succeeds. -/
def drawn? (generator : Snowflake) (before : Snapshot) : Option Draw :=
  (generator.draw before.state before.clock).toOption

/-- The draw starts, after a wait if need be, past the millisecond of the last key. -/
def fresh (generator : Snowflake) (before : Snapshot) : Bool :=
  match generator.catchUp before.state.last before.clock with
  | .ok now => before.state.last < now
  | .error _ => false

/-- The state that the last successful draw left, the initial one if there was none. -/
def stateAfter (generator : Snowflake) (found : List Snapshot) : State :=
  (((found.filterMap generator.drawn?).getLast?).map (·.state)).getD {}

theorem stateAfter_concat (found : List Snapshot) (before : Snapshot) :
    generator.stateAfter (found ++ [before]) =
      ((generator.drawn? before).map (·.state)).getD (generator.stateAfter found) := by
  unfold stateAfter
  rw [List.filterMap_append]
  cases drew : generator.drawn? before with
  | none => simp [drew]
  | some drawn => simp [drew]

/-! ## Draws and the rotation -/

theorem State.sameMillis_eq (state : State) (now : Clock) :
    state.sameMillis now =
      { last := if (state.sequence + 1) % sequences = 0 then now.advance 1 else now
        sequence := (state.sequence + 1) % sequences
        nextOffset := state.nextOffset } := by
  unfold sameMillis
  split
  next usedUp => rw [usedUp]
  next => rfl

variable {before : Snapshot} {drawn : Draw}

theorem accepts_of_draw (drew : generator.draw before.state before.clock = .ok drawn) :
    ¬ generator.Refuses before := by
  intro refuses
  rw [draw_of_refuses refuses] at drew
  cases drew

theorem fresh_iff (accepts : ¬ generator.Refuses before) :
    generator.fresh before = true ↔ before.start ≠ before.state.last := by
  have atLeast : before.state.last.toInt ≤ before.start.toInt := by
    rw [Snapshot.toInt_start]
    exact Int.le_max_right _ _
  have caught : generator.catchUp before.state.last before.clock = .ok before.start :=
    catchUp_of_not_refuses accepts
  simp only [fresh, caught, decide_eq_true_eq, Int64.lt_iff_toInt_lt, ne_eq, ← Int64.toInt_inj]
  omega

/-- Only a draw that finds a new millisecond takes its sequence from the rotation. -/
theorem state_of_draw (drew : generator.draw before.state before.clock = .ok drawn) :
    drawn.state = if generator.fresh before then
      before.state.newMillis generator.maxVibration before.start
    else before.state.sameMillis before.state.last := by
  have accepts := accepts_of_draw drew
  rw [draw_of_not_refuses accepts] at drew
  cases drew
  simp only [State.after, fresh_iff accepts, ne_eq, ite_not]
  exact ite_congr rfl (fun same => by rw [same]) fun _ => rfl

theorem state_of_fresh (drew : generator.draw before.state before.clock = .ok drawn)
    (isFresh : generator.fresh before = true) :
    drawn.state = before.state.newMillis generator.maxVibration before.start := by
  rw [state_of_draw drew, if_pos isFresh]

theorem state_of_stale (drew : generator.draw before.state before.clock = .ok drawn)
    (stale : generator.fresh before = false) :
    drawn.state = before.state.sameMillis before.state.last := by
  rw [state_of_draw drew, stale]
  rfl

theorem fresh_of_draw_eq_error {error : Error}
    (failed : generator.draw before.state before.clock = .error error) :
    generator.fresh before = false := by
  unfold fresh
  split
  next now caught =>
    rw [draw, caught] at failed
    cases failed
  next => rfl

/-- The next offset of a rotation through `0` to `greatest`. -/
theorem rotate_mod (count greatest : Nat) :
    (if greatest ≤ count % (greatest + 1) then 0 else count % (greatest + 1) + 1) =
      (count + 1) % (greatest + 1) := by
  have small : count % (greatest + 1) < greatest + 1 := Nat.mod_lt count (Nat.zero_lt_succ greatest)
  rw [← Nat.mod_add_mod]
  split
  next greatest_le =>
    have last : count % (greatest + 1) = greatest := by omega
    rw [last, Nat.mod_self]
  next below =>
    have next_small : count % (greatest + 1) + 1 < greatest + 1 := by omega
    rw [Nat.mod_eq_of_lt next_small]

/-- What a draw finds: the state that the last success left, with an offset that the number of
fresh draws so far decides. -/
structure Remembers (generator : Snowflake) (front : List Snapshot) (state : State) : Prop where
  state_eq : state = generator.stateAfter front
  nextOffset_eq :
    state.nextOffset = front.countP generator.fresh % (generator.maxVibration + 1)

theorem Remembers.initial : Remembers generator [] {} :=
  ⟨rfl, rfl⟩

theorem Remembers.step (front : List Snapshot) (before : Snapshot)
    (remembers : Remembers generator front before.state) :
    Remembers generator (front ++ [before]) (generator.afterDraw before).state := by
  obtain ⟨state_eq, nextOffset_eq⟩ := remembers
  cases drew : generator.draw before.state before.clock with
  | error error =>
      have stale := fresh_of_draw_eq_error drew
      simp only [afterDraw, drew]
      constructor
      · rw [stateAfter_concat, drawn?, drew]
        exact state_eq
      · rw [List.countP_append, nextOffset_eq]
        simp [stale]
  | ok drawn =>
      simp only [afterDraw, drew]
      constructor
      · rw [stateAfter_concat, drawn?, drew]
        rfl
      · rw [List.countP_append]
        cases isFresh : generator.fresh before with
        | true =>
            simp only [state_of_fresh drew isFresh, State.newMillis, nextOffset_eq, rotate_mod]
            simp [isFresh]
        | false =>
            simp only [state_of_stale drew isFresh, State.sameMillis_eq, nextOffset_eq]
            simp [isFresh]

theorem remembers_of_draws {start : Clock} {steps : List Step} {front rest : List Snapshot}
    (split : generator.draws { clock := start } steps = front ++ before :: rest) :
    Remembers generator front before.state :=
  draws_induction (Remembers generator) Remembers.step _ [] .initial split

theorem nextOffset_afterDraw_of_stale (stale : generator.fresh before = false) :
    (generator.afterDraw before).state.nextOffset = before.state.nextOffset := by
  unfold afterDraw
  split
  next drawn drew =>
    dsimp only
    rw [state_of_stale drew stale, State.sameMillis_eq]
  next => rfl

/-- A used up sequence goes on in a later millisecond, if the wait for one ends. -/
theorem last_lt_of_wraps (drew : generator.draw before.state before.clock = .ok drawn)
    (stale : generator.fresh before = false) (wrapped : drawn.state.sequence = 0)
    (ends : ∃ attempt, generator.Attempts before.state before.clock attempt) :
    before.state.last < drawn.state.last := by
  have accepts := accepts_of_draw drew
  have after := state_of_stale drew stale
  rw [State.sameMillis_eq] at after
  have usedUp : (before.state.sequence + 1) % sequences = 0 := by rw [← wrapped, after]
  have wraps : before.Wraps := by
    rw [← Bool.not_eq_true, fresh_iff accepts, not_not] at stale
    exact Snapshot.wraps_iff.mpr ⟨stale, usedUp⟩
  have notGreatest : before.state.last ≠ Int64.maxValue := by
    intro greatest
    obtain ⟨attempt, ended⟩ := ends
    exact ((attempts_iff_of_not_refuses accepts drew).mp ended).1 ⟨wraps, greatest⟩
  rw [after, Int64.lt_iff_toInt_lt]
  dsimp only
  rw [if_pos usedUp, Clock.toInt_advance_one_of_ne notGreatest]
  omega

end Snowflake

/-- Every fresh draw of a run, one that starts past the millisecond of the last key, takes the
offset that is next in turn, whatever happened to the clock and however many draws failed, waited
or used up the sequences of their millisecond in between. Every other draw goes on from the
sequence of the last key, into a later millisecond if there is none left, and leaves the rotation
where it is. Past the greatest word there is no later millisecond: a draw that waits for one never
ends and gives no key. -/
theorem offsets_rotate (generator : Snowflake) (start : Clock) (steps : List Snowflake.Step) :
    (∀ front before rest,
      generator.draws { clock := start } steps = front ++ before :: rest → ∀ drawn,
      generator.draw before.state before.clock = .ok drawn →
      (drawn.key &&& 4095).toInt = drawn.state.sequence ∧
      (generator.fresh before = true → drawn.state.sequence =
        front.countP generator.fresh % (generator.maxVibration + 1)) ∧
      (generator.fresh before = false →
        drawn.state.sequence = ((generator.stateAfter front).sequence + 1) % 4096 ∧
        (drawn.state.sequence = 0 →
          (∃ attempt, generator.Attempts before.state before.clock attempt) →
          (generator.stateAfter front).last < drawn.state.last))) ∧
    ∀ before ∈ generator.draws { clock := start } steps, generator.fresh before = false →
      (generator.afterDraw before).state.nextOffset = before.state.nextOffset := by
  constructor
  · intro front before rest split drawn drew
    obtain ⟨state_eq, nextOffset_eq⟩ := Snowflake.remembers_of_draws split
    have member : before ∈ generator.draws { clock := start } steps := by
      rw [split]
      exact List.mem_append_right _ List.mem_cons_self
    obtain ⟨key, small⟩ := Snowflake.draw_eq_keyOf member drew
    refine ⟨key ▸ Snowflake.toInt_sequence_keyOf _ small, fun isFresh => ?_, fun stale => ⟨?_, ?_⟩⟩
    · rw [Snowflake.state_of_fresh drew isFresh]
      exact nextOffset_eq
    · rw [Snowflake.state_of_stale drew stale, Snowflake.State.sameMillis_eq, ← state_eq]
      rfl
    · intro wrapped ends
      exact state_eq ▸ Snowflake.last_lt_of_wraps drew stale wrapped ends
  · intro before _ stale
    exact Snowflake.nextOffset_afterDraw_of_stale stale

private def turningGenerator : Snowflake :=
  ⟨Snowflake.defaultEpoch, 9, 3, 10, by decide, by decide⟩

/-- The third draw finds the millisecond of the second, the fourth fails, and the fifth waits for
the clock. -/
private def turningSteps : List Snowflake.Step :=
  [.draw, .clock (.advance 1), .draw, .draw, .clock (.advance (-20)), .draw,
    .clock (.advance 11), .draw, .clock (.sleep 30), .draw]

/-- The snapshots that the draws before the fifth start from. -/
private def turningFront : List Snowflake.Snapshot :=
  [⟨{}, 1477958401000⟩, ⟨⟨1477958401000, 0, 1⟩, 1477958401001⟩,
    ⟨⟨1477958401001, 1, 2⟩, 1477958401001⟩, ⟨⟨1477958401001, 2, 2⟩, 1477958400981⟩]

private def turningWait : Snowflake.Snapshot :=
  ⟨⟨1477958401001, 2, 2⟩, 1477958400992⟩

private def turningLast : Snowflake.Snapshot :=
  ⟨⟨1477958401001, 3, 2⟩, 1477958401031⟩

private theorem turning_draws :
    turningGenerator.draws { clock := 1477958401000 } turningSteps =
      turningFront ++ [turningWait, turningLast] := by
  rfl

theorem turning_offsets_rotate :
    (∃ drawn, turningGenerator.draw turningWait.state turningWait.clock = .ok drawn ∧
      turningGenerator.fresh turningWait = false ∧
      drawn.state.sequence = ((turningGenerator.stateAfter turningFront).sequence + 1) % 4096 ∧
      drawn.state.sequence = 3) ∧
    ∃ drawn, turningGenerator.draw turningLast.state turningLast.clock = .ok drawn ∧
      turningGenerator.fresh turningLast = true ∧
      drawn.state.sequence =
        (turningFront ++ [turningWait]).countP turningGenerator.fresh % (3 + 1) ∧
      drawn.state.sequence = 2 := by
  obtain ⟨rotates, -⟩ := offsets_rotate turningGenerator 1477958401000 turningSteps
  have waited : turningGenerator.draw turningWait.state turningWait.clock =
      .ok ⟨4198535171, ⟨1477958401001, 3, 2⟩, 1477958401001⟩ := by
    decide +kernel
  have started : turningGenerator.draw turningLast.state turningLast.clock =
      .ok ⟨4324364290, ⟨1477958401031, 2, 3⟩, 1477958401031⟩ := by
    decide +kernel
  have stale : turningGenerator.fresh turningWait = false := by decide +kernel
  have isFresh : turningGenerator.fresh turningLast = true := by decide +kernel
  obtain ⟨-, -, goesOn⟩ := rotates turningFront turningWait [turningLast] turning_draws _ waited
  have split := (List.append_assoc turningFront [turningWait] [turningLast]).symm
  obtain ⟨-, inTurn, -⟩ := rotates (turningFront ++ [turningWait]) turningLast []
    (turning_draws.trans split) _ started
  exact ⟨⟨_, waited, stale, (goesOn stale).1, rfl⟩, _, started, isFresh, inTurn isFresh, rfl⟩

end Sharding
