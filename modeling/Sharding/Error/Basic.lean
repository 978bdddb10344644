import Sharding.Error.Fault

/-!
# Errors

The errors of loading rules, of routing and of drawing keys, the class each belongs to and the
exit code it ends a command with.
-/

set_option autoImplicit false

namespace Sharding

inductive Error where
  | config (fault : ConfigFault)
  /-- An algorithm of a type refused its properties. -/
  | algorithmInit (type : String) (fault : InitFault)
  | expression (source : String) (fault : Template.Fault)
  /-- The clock is further back than a generator waits for. -/
  | clockMovedBack (last current : Int64)
  /-- A hint context is attached already. -/
  | hintActive
  /-- A table cannot be routed by the conditions and hints there are. -/
  | mismatch (table : String) (fault : MismatchFault)
  /-- An algorithm of a type could not place its values. -/
  | selection (type : String) (fault : SelectionFault)
  /-- An auditor refused to let a table be routed. -/
  | audit (table auditor : String)
  /-- No data node of a table is selected. -/
  | noTarget (table : String)
  /-- A table without a rule, and no data source for such tables. -/
  | noDefault (table : String)
  | io (text : String)
  | yaml (text : String)
  | json (text : String)
  deriving DecidableEq, Repr

namespace Error

def message : Error → String
  | .config fault => String.join ["Configuration error: ", fault.message]
  | .algorithmInit type fault =>
    String.join ["Algorithm initialization failed for ", type, ": ", fault.message]
  | .expression source fault => fault.report source
  | .clockMovedBack last current =>
    String.join ["Clock moved backwards: last timestamp ", Word.text last, "ms, current timestamp ",
      Word.text current, "ms"]
  | .hintActive =>
    "Hint context is already active on this thread - release it before acquiring another"
  | .mismatch table fault => String.join ["Cannot route table ", table, ": ", fault.message]
  | .selection type fault => fault.report type
  | .audit table auditor =>
    String.join ["Audit '", auditor, "' rejected table ", table,
      ": a sharding condition is required"]
  | .noTarget table =>
    String.join ["No actual data node matched the sharding conditions of table ", table]
  | .noDefault table =>
    String.join ["Table ", table, " is not sharded and no default data source is configured"]
  | .io text => String.join ["IO error: ", text]
  | .yaml text => String.join ["YAML error: ", text]
  | .json text => String.join ["JSON error: ", text]

inductive Kind where
  | config
  | algorithmInit
  | expression
  | clockMovedBack
  | hintActive
  | mismatch
  | selection
  | audit
  | noTarget
  | noDefault
  | io
  | yaml
  | json
  deriving DecidableEq, Repr

def kind : Error → Kind
  | .config _ => .config
  | .algorithmInit _ _ => .algorithmInit
  | .expression _ _ => .expression
  | .clockMovedBack _ _ => .clockMovedBack
  | .hintActive => .hintActive
  | .mismatch _ _ => .mismatch
  | .selection _ _ => .selection
  | .audit _ _ => .audit
  | .noTarget _ => .noTarget
  | .noDefault _ => .noDefault
  | .io _ => .io
  | .yaml _ => .yaml
  | .json _ => .json

/-- The error belongs to loading rules and setting up their algorithms. -/
def Kind.isConfiguration : Kind → Bool
  | .config | .algorithmInit | .expression | .yaml => true
  | _ => false

def Kind.isRouting : Kind → Bool
  | .mismatch | .selection | .audit | .noTarget | .noDefault | .hintActive => true
  | _ => false

def Kind.exitCode (kind : Kind) : Nat :=
  if kind.isConfiguration then 2
  else if kind.isRouting then 3
  else if kind = .clockMovedBack then 4
  else 1

/-- The text of the error from outside that this one wraps, if there is one. -/
def cause? : Error → Option String
  | .io text => some text
  | .yaml text => some text
  | .json text => some text
  | _ => none

/-- The error with the chain of its causes, as a command reports it. -/
def report (error : Error) : String :=
  let head := "Error: " ++ error.message ++ "\n"
  match error.cause? with
  | none => head
  | some text => head ++ "\nCaused by:\n  1: " ++ text

end Error

end Sharding
