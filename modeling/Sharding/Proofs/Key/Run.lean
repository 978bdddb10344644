import Sharding.Proofs.Key.Draw
import Sharding.Rule.Keys

/-!
# Runs of generators

A run takes a generator through draws and changes of its clock in any order; in a run of a rule the
draws are requests for keys of tables. Draws that fail are part of a run and leave everything as
it was. In a run of a rule each generator sees a run of its own, so what holds of the keys of a
generator holds of the keys of all tables that share it.
-/

set_option autoImplicit false

namespace Sharding

namespace Clock

/-- What can happen to a clock between draws. -/
inductive Change where
  | set (millis : Clock)
  | advance (millis : Int64)
  | sleep (millis : Nat)

def apply (clock : Clock) : Change → Clock
  | .set millis => millis
  | .advance millis => clock.advance millis
  | .sleep millis => clock.sleep millis

end Clock

namespace Snowflake

inductive Step where
  | draw
  | clock (change : Clock.Change)

/-- A generator between two steps. -/
structure Snapshot where
  state : State := {}
  clock : Clock

def key? (generator : Snowflake) (before : Snapshot) : Option Int64 :=
  match generator.draw before.state before.clock with
  | .ok drawn => some drawn.key
  | .error _ => none

def afterDraw (generator : Snowflake) (before : Snapshot) : Snapshot :=
  match generator.draw before.state before.clock with
  | .ok drawn => ⟨drawn.state, drawn.clock⟩
  | .error _ => before

/-- The readings of the clock that a draw makes: at first, once the clock has caught up with the
last key, and when the millisecond of the new key is settled. -/
def readings (generator : Snowflake) (before : Snapshot) : List Clock :=
  match generator.catchUp before.state.last before.clock with
  | .ok now => [before.clock, now, (before.state.after generator now).last]
  | .error _ => [before.clock]

/-- The snapshots that the draws of a run start from. -/
def draws (generator : Snowflake) : Snapshot → List Step → List Snapshot
  | _, [] => []
  | before, .clock change :: steps =>
    generator.draws { before with clock := before.clock.apply change } steps
  | before, .draw :: steps => before :: generator.draws (generator.afterDraw before) steps

/-- The keys of a run of a fresh generator. -/
def keys (generator : Snowflake) (start : Clock) (steps : List Step) : List Int64 :=
  (generator.draws { clock := start } steps).filterMap generator.key?

theorem draw_advances {generator : Snowflake} {before : Snapshot} {drawn : Draw}
    (valid : before.state.Valid generator)
    (drew : generator.draw before.state before.clock = .ok drawn)
    (window : ∀ reading ∈ generator.readings before, generator.InWindow reading) :
    drawn.state.Valid generator ∧
      drawn.key.toInt = generator.exactKey drawn.state.last drawn.state.sequence ∧
      0 ≤ drawn.key.toInt ∧
      generator.exactKey before.state.last before.state.sequence < drawn.key.toInt := by
  obtain ⟨now, caught, rfl⟩ := draw_eq_ok_iff.mp drew
  simp only [readings, caught, List.mem_cons, List.not_mem_nil, or_false, forall_eq_or_imp,
    forall_eq] at window
  obtain ⟨-, started, ended⟩ := window
  have validAfter := valid.after now
  obtain ⟨exact, nonneg⟩ := toInt_keyOf ended validAfter.sequence_lt
  have grows := exactKey_lt valid
    (valid.after_advances (catchUp_eq_ok caught).1 started ended)
  exact ⟨validAfter, exact, exact ▸ nonneg, exact ▸ grows⟩

/-- From a valid state on, keys grow and stay above the key that the state stands for. -/
theorem keys_of_draws (generator : Snowflake) (steps : List Step) (before : Snapshot)
    (valid : before.state.Valid generator)
    (window : ∀ found ∈ generator.draws before steps,
      ∀ reading ∈ generator.readings found, generator.InWindow reading) :
    ((generator.draws before steps).filterMap generator.key?).Pairwise (· < ·) ∧
      ∀ key ∈ (generator.draws before steps).filterMap generator.key?,
        generator.exactKey before.state.last before.state.sequence < key.toInt ∧ 0 ≤ key := by
  induction steps generalizing before with
  | nil => simp [draws]
  | cons step steps ih =>
      cases step with
      | clock change => exact ih _ valid window
      | draw =>
          simp only [draws, List.forall_mem_cons] at window
          obtain ⟨here, later⟩ := window
          simp only [draws]
          cases drew : generator.draw before.state before.clock with
          | error error =>
              have stays : generator.afterDraw before = before := by simp only [afterDraw, drew]
              have noKey : generator.key? before = none := by simp only [key?, drew]
              rw [stays] at later ⊢
              rw [List.filterMap_cons_none noKey]
              exact ih before valid later
          | ok drawn =>
              obtain ⟨validAfter, exact, nonneg, grows⟩ := draw_advances valid drew here
              have moves : generator.afterDraw before = ⟨drawn.state, drawn.clock⟩ := by
                simp only [afterDraw, drew]
              have key : generator.key? before = some drawn.key := by simp only [key?, drew]
              rw [moves] at later ⊢
              rw [List.filterMap_cons_some key]
              obtain ⟨increasing, above⟩ := ih _ validAfter later
              constructor
              · refine List.pairwise_cons.mpr ⟨fun later member => ?_, increasing⟩
                rw [Int64.lt_iff_toInt_lt, exact]
                exact (above later member).1
              · refine List.forall_mem_cons.mpr ⟨⟨grows, ?_⟩, fun later member => ?_⟩
                · rwa [Int64.le_iff_toInt_le, Int64.toInt_zero]
                · have higher : generator.exactKey drawn.state.last drawn.state.sequence <
                      later.toInt := (above later member).1
                  exact ⟨by omega, (above later member).2⟩

end Snowflake

/-- What the generator with a name is like. -/
def KeyState.snapshot (keys : KeyState) (name : String) : Snowflake.Snapshot :=
  ⟨keys.remembered name, keys.clock⟩

namespace Rule

inductive KeyStep where
  | generate (table : String)
  | clock (change : Clock.Change)

/-- A request for a key of a table, with all generators as it finds them. -/
structure KeyRequest where
  before : KeyState
  table : String

def KeyRequest.key? (rule : Rule) (request : KeyRequest) : Option Int64 :=
  match rule.generateKey request.before request.table with
  | .ok (some (key, _)) => some key.value
  | _ => none

def KeyRequest.after (rule : Rule) (request : KeyRequest) : KeyState :=
  match rule.generateKey request.before request.table with
  | .ok (some (_, after)) => after
  | _ => request.before

/-- The requests of a run. -/
def requests (rule : Rule) : KeyState → List KeyStep → List KeyRequest
  | _, [] => []
  | before, .clock change :: steps =>
    rule.requests { before with clock := before.clock.apply change } steps
  | before, .generate table :: steps =>
    ⟨before, table⟩ :: rule.requests (KeyRequest.after rule ⟨before, table⟩) steps

/-- The name of the generator that makes the keys of a table. -/
def generatorName? (rule : Rule) (table : String) : Option String :=
  ((rule.table? table).bind (·.key)).map (·.generator)

/-- The requests of a run, of fresh generators, for tables that share a generator. -/
def requestsTo (rule : Rule) (name : String) (start : Clock) (steps : List KeyStep) :
    List KeyRequest :=
  (rule.requests { clock := start } steps).filter fun request =>
    rule.generatorName? request.table = some name

theorem KeyRequest.key?_eq {rule : Rule} {name : String} {generator : Snowflake}
    (declared : rule.keyGenerators.get? name = some generator) {request : KeyRequest}
    (named : rule.generatorName? request.table = some name) :
    request.key? rule = generator.key? (request.before.snapshot name) := by
  obtain ⟨entry, found, rfl⟩ := Option.map_eq_some_iff.mp named
  unfold KeyRequest.key? generateKey
  simp only [found, declared, KeyState.draw, Snowflake.key?, KeyState.snapshot]
  cases generator.draw (request.before.remembered entry.generator) request.before.clock <;> rfl

theorem snapshot_after {rule : Rule} {name : String} {generator : Snowflake}
    (declared : rule.keyGenerators.get? name = some generator) {request : KeyRequest}
    (named : rule.generatorName? request.table = some name) :
    (request.after rule).snapshot name = generator.afterDraw (request.before.snapshot name) := by
  obtain ⟨entry, found, rfl⟩ := Option.map_eq_some_iff.mp named
  unfold KeyRequest.after generateKey
  simp only [found, declared, KeyState.draw, Snowflake.afterDraw, KeyState.snapshot]
  cases generator.draw (request.before.remembered entry.generator) request.before.clock with
  | error error => rfl
  | ok drawn => simp [bind, Except.bind, pure, Except.pure, KeyState.remembered]

theorem remembered_after_of_ne {rule : Rule} {name : String} (request : KeyRequest)
    (other : rule.generatorName? request.table ≠ some name) :
    (request.after rule).remembered name = request.before.remembered name := by
  unfold KeyRequest.after generateKey
  cases found : (rule.table? request.table).bind (·.key) with
  | none => rfl
  | some entry =>
      have different : name ≠ entry.generator := by
        intro same
        exact other (by rw [generatorName?, found, same]; rfl)
      dsimp only
      cases rule.keyGenerators.get? entry.generator with
      | none => rfl
      | some generator =>
          dsimp only [KeyState.draw]
          cases generator.draw (request.before.remembered entry.generator) request.before.clock with
          | error error => rfl
          | ok drawn =>
              simp only [bind, Except.bind, pure, Except.pure, KeyState.remembered,
                NameMap.get?_insert_of_ne _ _ different]

/-- A run of a rule is to each of its generators a run of that generator alone, in which the draws
of others are changes of the clock. -/
theorem exists_draws {rule : Rule} {name : String} {generator : Snowflake}
    (declared : rule.keyGenerators.get? name = some generator) (steps : List KeyStep)
    (before : KeyState) :
    ∃ own : List Snowflake.Step,
      generator.draws (before.snapshot name) own =
        ((rule.requests before steps).filter fun request =>
          rule.generatorName? request.table = some name).map (·.before.snapshot name) := by
  induction steps generalizing before with
  | nil => exact ⟨[], rfl⟩
  | cons step steps ih =>
      cases step with
      | clock change =>
          obtain ⟨own, same⟩ := ih { before with clock := before.clock.apply change }
          exact ⟨.clock change :: own, same⟩
      | generate table =>
          obtain ⟨own, same⟩ := ih (KeyRequest.after rule ⟨before, table⟩)
          by_cases named : rule.generatorName? table = some name
          · refine ⟨.draw :: own, ?_⟩
            rw [snapshot_after declared named] at same
            simp only [Snowflake.draws, requests, same, List.filter_cons, named, decide_true,
              ite_true, List.map_cons]
          · refine ⟨.clock (.set (KeyRequest.after rule ⟨before, table⟩).clock) :: own, ?_⟩
            rw [KeyState.snapshot,
              remembered_after_of_ne ⟨before, table⟩ named] at same
            simp only [requests, List.filter_cons, named, decide_false, Bool.false_eq_true,
              ite_false]
            exact same

end Rule

/-- Keys strictly increase over whole runs, those of one generator and those of all tables of a
rule that share a generator, whatever happens to the clock and whichever draws fail, as long as
every reading of the clock is one that a key has room for. -/
theorem keys_strictly_increase :
    (∀ (generator : Snowflake) (start : Clock) (steps : List Snowflake.Step),
      (∀ before ∈ generator.draws { clock := start } steps,
        ∀ reading ∈ generator.readings before, generator.InWindow reading) →
      (generator.keys start steps).Pairwise (· < ·) ∧ ∀ key ∈ generator.keys start steps, 0 ≤ key) ∧
    ∀ (rule : Rule) (name : String) (generator : Snowflake) (start : Clock)
      (steps : List Rule.KeyStep),
      rule.keyGenerators.get? name = some generator →
      (∀ request ∈ rule.requestsTo name start steps,
        ∀ reading ∈ generator.readings (request.before.snapshot name), generator.InWindow reading) →
      ((rule.requestsTo name start steps).filterMap (·.key? rule)).Pairwise (· < ·) ∧
        ∀ key ∈ (rule.requestsTo name start steps).filterMap (·.key? rule), 0 ≤ key := by
  constructor
  · intro generator start steps window
    obtain ⟨increasing, above⟩ := Snowflake.keys_of_draws generator steps ⟨{}, start⟩
      (.initial generator) window
    exact ⟨increasing, fun key member => (above key member).2⟩
  · intro rule name generator start steps declared window
    obtain ⟨own, same⟩ := Rule.exists_draws declared steps { clock := start }
    have sameKeys : (rule.requestsTo name start steps).filterMap (·.key? rule) =
        (generator.draws ⟨{}, start⟩ own).filterMap generator.key? := by
      change _ = (generator.draws (KeyState.snapshot { clock := start } name) own).filterMap _
      rw [same, List.filterMap_map]
      refine List.filterMap_congr fun request member => ?_
      exact Rule.KeyRequest.key?_eq declared (of_decide_eq_true (List.mem_filter.mp member).2)
    rw [sameKeys]
    obtain ⟨increasing, above⟩ := Snowflake.keys_of_draws generator own ⟨{}, start⟩
      (.initial generator) fun found member => by
        obtain ⟨request, requested, rfl⟩ := List.mem_map.mp (same ▸ member)
        exact window request requested
    exact ⟨increasing, fun key member => (above key member).2⟩

private def pairGenerator : Snowflake :=
  ⟨Snowflake.defaultEpoch, 5, 1, 10, by decide, by decide⟩

private def pairRule : Rule where
  dataSources := ["ds"]
  defaultDataSource := none
  tables := .ofList
    [("order", { logicTable := "order", nodes := [], key := some ⟨"id", "flake"⟩ }),
      ("item", { logicTable := "Item", nodes := [], key := some ⟨"id", "flake"⟩ })]
  groups := []
  broadcast := .empty
  algorithms := .empty
  keyGenerators := .ofList [("flake", pairGenerator)]
  auditors := .empty
  fingerprint := ""

/-- The third request waits for the clock and the fourth fails. -/
private def pairSteps : List Rule.KeyStep :=
  [.generate "order", .generate "ITEM", .clock (.advance (-5)), .generate "order",
    .clock (.advance (-20)), .generate "item", .clock (.sleep 30), .generate "item"]

private theorem inWindow_of_all {α : Type} {items : List α} {readings : α → List Clock}
    (checked : (items.all fun item =>
      (readings item).all fun reading => pairGenerator.InWindow reading) = true) :
    ∀ item ∈ items, ∀ reading ∈ readings item, pairGenerator.InWindow reading := by
  simpa only [List.all_eq_true, decide_eq_true_eq] using checked

theorem pair_keys_increase :
    (∀ request ∈ pairRule.requestsTo "flake" 1477958401000 pairSteps,
      ∀ reading ∈ pairGenerator.readings (request.before.snapshot "flake"),
        pairGenerator.InWindow reading) ∧
    (pairRule.requestsTo "flake" 1477958401000 pairSteps).filterMap (·.key? pairRule) =
      [4194324480, 4194324481, 4194324482, 4236267521] ∧
    ((pairRule.requestsTo "flake" 1477958401000 pairSteps).filterMap
      (·.key? pairRule)).Pairwise (· < ·) ∧
    (pairGenerator.keys 1477958401000 [.draw, .clock (.set 1477958401007), .draw]).Pairwise
      (· < ·) := by
  have declared : pairRule.keyGenerators.get? "flake" = some pairGenerator := by decide +kernel
  have window : ∀ request ∈ pairRule.requestsTo "flake" 1477958401000 pairSteps,
      ∀ reading ∈ pairGenerator.readings (request.before.snapshot "flake"),
        pairGenerator.InWindow reading := by
    exact inWindow_of_all (by decide +kernel)
  obtain ⟨alone, shared⟩ := keys_strictly_increase
  refine ⟨window, by decide +kernel, (shared _ _ _ _ _ declared window).1, ?_⟩
  exact (alone pairGenerator 1477958401000 [.draw, .clock (.set 1477958401007), .draw]
    (inWindow_of_all (by decide +kernel))).1

end Sharding
