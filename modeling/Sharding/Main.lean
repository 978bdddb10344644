import Sharding.Command.Run
import Sharding.Document.Reader
import Std.Time.DateTime.Timestamp

/-!
# The command

Reads the rule file and the clock, runs the command and prints its answer. Keys whose time is yet
to come are printed once it has come.
-/

set_option autoImplicit false

namespace Sharding

/-- What is printed about a command line that makes no sense. -/
def usage : List String :=
  ["Usage: sharding [--config FILE] [--output-json] COMMAND",
    "",
    "Commands:",
    "  validate",
    "  nodes [--table TABLE]",
    "  route --table TABLE... [--eq TABLE.COLUMN=VALUE] [--in TABLE.COLUMN=VALUE,VALUE]",
    "        [--range TABLE.COLUMN=LOWER..UPPER] [--hint-db TABLE=VALUE]",
    "        [--hint-table TABLE=VALUE] [--hint-db-only VALUE] [--hint-data-source NAME]",
    "        [--write-only]",
    "  keygen [--table TABLE | --generator NAME] [-n COUNT]"]

def readRuleFile (path : String) : IO (Except Error RuleFile) := do
  match ← (IO.FS.readFile path).toBaseIO with
  | .error failure => return .error (.io (toString failure))
  | .ok content =>
    match Document.read? content with
    | some document => return RuleFile.load document
    | none => return .error (.yaml "the text is no document")

def readClock : IO Clock := do
  return Int64.ofInt (← Std.Time.Timestamp.now).toMillisecondsSinceUnixEpoch.val

/-- Waits until the clock has reached the time of the last key. -/
def awaitKeys : Command.Answer → IO Unit
  | .keys _ last => do
    let now ← readClock
    IO.sleep (UInt32.ofNat (last.toInt - now.toInt).toNat)
  | _ => return ()

def runArguments (arguments : List String) : IO UInt32 := do
  match Command.Invocation.read? arguments with
  | none =>
    usage.forM fun line => IO.eprintln line
    return UInt32.ofNat Command.usageCode
  | some invocation =>
    let file ← readRuleFile invocation.path
    match Command.run file (← readClock) invocation.task with
    | .error error =>
      IO.eprintln error.report
      return UInt32.ofNat error.kind.exitCode
    | .ok answer =>
      awaitKeys answer
      IO.print (answer.text invocation.json)
      return 0

end Sharding

def main (arguments : List String) : IO UInt32 :=
  Sharding.runArguments arguments
