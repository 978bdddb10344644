import Sharding.Error.Basic
import Sharding.Hint.Basic

/-!
# Hint contexts

The place that holds the hint of one unit of work. It is taken before the hint is changed and
left when the work is done, however it ends. It cannot be taken twice.
-/

set_option autoImplicit false

namespace Sharding

/-- The hint of the work in progress, if it has taken the context. -/
abbrev HintContext : Type := Option Hint

namespace HintContext

inductive Operation where
  | acquire
  | release
  | change (change : Hint.Change)
  deriving DecidableEq, Repr

def acquire : HintContext → Except Error HintContext
  | none => .ok (some {})
  | some _ => .error .hintActive

def release (_context : HintContext) : HintContext :=
  none

def change (context : HintContext) (change : Hint.Change) : HintContext :=
  context.map fun hint => hint.apply change

def perform (context : HintContext) : Operation → Except Error HintContext
  | .acquire => context.acquire
  | .release => .ok context.release
  | .change change => .ok (context.change change)

/-- The context after operations of which those that fail change nothing. -/
def run (context : HintContext) (operations : List Operation) : HintContext :=
  operations.foldl
    (fun context operation => match context.perform operation with
      | .ok after => after
      | .error _ => context)
    context

/-! What the work in progress reads. While the context is free there is nothing to read. -/

def databaseValuesFor (context : HintContext) (table : String) : List Value :=
  (context.map fun hint => hint.databaseValuesFor table).getD []

def tableValuesFor (context : HintContext) (table : String) : List Value :=
  (context.map fun hint => hint.tableValuesFor table).getD []

def unkeyedValues (context : HintContext) : List Value :=
  (context.map fun hint => hint.unkeyedValues).getD []

def isDatabaseOnly (context : HintContext) : Bool :=
  (context.map (·.databaseOnly)).getD false

def isWriteOnly (context : HintContext) : Bool :=
  (context.map (·.writeOnly)).getD false

def dataSource? (context : HintContext) : Option String :=
  context.bind (·.dataSource)

/-- Work in a context: what comes out of it, and the context that it ends with. -/
abbrev Work (α : Type) : Type := HintContext → Except Error α × HintContext

/-- Takes the context for the work and leaves it afterwards, whether the work fails or not. Work in
a context that cannot be taken is refused. -/
def scope {α : Type} (context : HintContext) (work : Work α) : Except Error α × HintContext :=
  match context.acquire with
  | .error error => (.error error, context)
  | .ok taken =>
    let (outcome, after) := work taken
    (outcome, after.release)

end HintContext

end Sharding
