import Sharding.Rule.Basic

/-!
# Drawing keys

The keys that a rule generates for new rows. What its generators remember and the time on their
clock are passed along, so tables that share a generator share its keys.
-/

set_option autoImplicit false

namespace Sharding

/-- The clock of all generators and what each of them remembers. -/
structure KeyState where
  clock : Clock
  generators : NameMap Snowflake.State := .empty

structure GeneratedKey where
  column : String
  value : Int64
  deriving DecidableEq, Repr

namespace KeyState

def remembered (keys : KeyState) (name : String) : Snowflake.State :=
  (keys.generators.get? name).getD {}

def draw (keys : KeyState) (name : String) (generator : Snowflake) :
    Except Error (Int64 × KeyState) := do
  let drawn ← generator.draw (keys.remembered name) keys.clock
  return (drawn.key,
    { clock := drawn.clock, generators := keys.generators.insert name drawn.state })

end KeyState

namespace Rule

/-- Draws a key for a new row of a table, if keys are generated for it. -/
def generateKey (rule : Rule) (keys : KeyState) (table : String) :
    Except Error (Option (GeneratedKey × KeyState)) :=
  match (rule.table? table).bind (·.key) with
  | none => .ok none
  | some entry =>
    match rule.keyGenerators.get? entry.generator with
    | none => .error (.config (.rule (.unknownKeyGenerator entry.generator)))
    | some generator => do
      let (value, after) ← keys.draw entry.generator generator
      return some (⟨entry.column, value⟩, after)

end Rule

end Sharding
