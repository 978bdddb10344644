import Sharding.Proofs.Catalog
import Sharding.Proofs.Route.Failures
import Sharding.Rule.Keys

/-!
# Failures of built rules

A rule that is built with the algorithms of this library has no configuration errors left: a
statement fails for its conditions, its hints or its tables, and a key for the clock.
-/

set_option autoImplicit false

namespace Sharding

/-! ## Keys -/

theorem Snowflake.draw_failsOnly (generator : Snowflake) (state : Snowflake.State)
    (clock : Clock) : FailsOnly (Error.HasKind .clockMovedBack) (generator.draw state clock) := by
  refine FailsOnly.bind ?_ fun _ _ => .ok _
  exact .ite (.ok _) (.ite (.error rfl) (.ok _))

theorem KeyState.draw_failsOnly (keys : KeyState) (name : String) (generator : Snowflake) :
    FailsOnly (Error.HasKind .clockMovedBack) (keys.draw name generator) :=
  (generator.draw_failsOnly _ _).bind fun _ _ => .ok _

namespace Rule

variable {rule : Rule} {table : TableRule}

theorem generateKey_failsOnly
    (known : ∀ key table, rule.tables.get? key = some table → ∀ entry ∈ table.key, ∃ generator,
      rule.keyGenerators.get? entry.generator = some generator)
    (keys : KeyState) (name : String) :
    FailsOnly (Error.HasKind .clockMovedBack) (rule.generateKey keys name) := by
  unfold generateKey
  split
  · exact .ok none
  next entry keyed =>
    obtain ⟨table, ruled, given⟩ := Option.bind_eq_some_iff.mp keyed
    obtain ⟨generator, found⟩ := known _ table ruled entry given
    rw [found]
    exact (keys.draw_failsOnly _ _).bind fun _ _ => .ok _

/-! ## Statements -/

theorem audit_failsOnly
    (known : ∀ entry ∈ table.audit, ∀ name ∈ entry.auditors, ∃ auditor,
      rule.auditors.get? name = some auditor)
    (conditioned hinted : Bool) :
    FailsOnly (Error.HasKind .audit) (rule.audit table conditioned hinted) := by
  unfold audit
  split
  · exact .ok ()
  next entry given =>
    refine .ite (.ok ()) (.ite (.error rfl) (FailsOnly.forM fun name listed => ?_))
    obtain ⟨auditor, found⟩ := known entry given name listed
    rw [auditBy, found]
    exact .ite (.ok ()) (.error rfl)

/-- The kinds of errors that a statement may fail with. -/
def routeKinds : List Error.Kind :=
  [.mismatch, .audit, .noTarget, .noDefault]

theorem IsBuilt.guarded {catalog : Catalog}
    {expand : String → Except Error (List DataNode)} {file : RuleFile}
    (isBuilt : IsBuilt catalog expand file rule)
    (registered : catalog.placements = Catalog.builtin.placements) (statement : Statement)
    (hint : Option Hint) : rule.Guarded statement hint fun error => error.kind ∈ routeKinds where
  admits := by constructor <;> simp [routeKinds, Error.kind]
  places name table ruled placement places := by
    obtain ⟨_, found⟩ := isBuilt.places_known ruled places
    exact (isBuilt.algorithm_builtin registered found).failsOnly.imp fun _ => Or.inl
  audits name _ table conditioned hinted audits := by
    refine (audit_failsOnly (isBuilt.auditor_known audits.table?_eq) conditioned hinted).imp ?_
    intro error kind
    rw [kind]
    decide

/-- Nothing that is wrong with a rule is left to be found by a statement or by a new row. -/
theorem no_configuration_errors {workers : WorkerSource}
    {expand : String → Except Error (List DataNode)} {file : RuleFile}
    (built : build { Catalog.builtin with workers } expand file = .ok rule) :
    (∀ statement hint error, rule.route statement hint = .error error →
      error.kind ∈ routeKinds) ∧
    ∀ keys table error, rule.generateKey keys table = .error error →
      error.kind = .clockMovedBack := by
  have isBuilt := isBuilt_of_build built
  constructor
  · intro statement hint
    exact (isBuilt.guarded rfl statement hint).route
  · intro keys table
    exact generateKey_failsOnly (fun _ _ => isBuilt.generator_known) keys table

private def ticketFile : RuleFile where
  dataSources := ["ds"]
  tables := .ofList
    [("t_ticket", ⟨some "ds.t_ticket_$\x7b0..2\x7d", none,
      some { standard := some ⟨some "id", "volume"⟩ }, some ⟨"id", "flake"⟩, none⟩)]
  algorithms := .ofList
    [("volume", ⟨"VOLUME_RANGE", .ofList
      [("range-lower", "0"), ("range-upper", "20"), ("sharding-volume", "20")]⟩)]
  keyGenerators := .ofList [("flake", ⟨"SNOWFLAKE", .empty⟩)]

/-- No number that a partition could be found for. -/
private def ticketStatement : Statement where
  conditions := [⟨"t_ticket", [⟨"id", .equal (.text "first")⟩]⟩]

/-- The clock was set back by a minute since the last ticket. -/
private def ticketKeys : KeyState where
  clock := 1600000000000
  generators := .ofList [("flake", { last := 1600000060000 })]

theorem ticket_errors :
    ∃ rule routeError keyError, build .builtin DataNode.expand ticketFile = .ok rule ∧
      (rule.route ticketStatement none = .error routeError ∧ routeError.kind ∈ routeKinds) ∧
      rule.generateKey ticketKeys "t_ticket" = .error keyError ∧
      keyError.kind = .clockMovedBack := by
  have run : (build .builtin DataNode.expand ticketFile >>= fun rule => pure (decide
      (rule.route ticketStatement none = .error
          (.mismatch "t_ticket" (.selection "VOLUME_RANGE" (.notInteger (.text "first")))) ∧
        ((rule.generateKey ticketKeys "t_ticket").map fun drawn => drawn.map (·.1)) =
          .error (.clockMovedBack 1600000060000 1600000000000)))) = .ok true := by
    decide +kernel
  obtain ⟨rule, built, unrouted, undrawn⟩ := exists_of_decided run
  obtain ⟨routes, keys⟩ := no_configuration_errors built
  cases drawn : rule.generateKey ticketKeys "t_ticket" with
  | ok _ =>
      rw [drawn] at undrawn
      cases undrawn
  | error keyError =>
      exact ⟨rule, _, keyError, built, ⟨unrouted, routes _ _ _ unrouted⟩, drawn, keys _ _ _ drawn⟩

end Rule

end Sharding
