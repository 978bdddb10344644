import Sharding.Text.Around
import Sharding.Word.Decimal

/-!
# Arguments

The command line: options that concern every command, a command, and options of the command. An
option is written `--name value` or `--name=value`, some also with a single letter as `-n value`,
`-nvalue` or `-n=value`. A value that stands apart does not start with a hyphen, unless the hyphen
is all of it. An option is given once at most, except those that collect values.
-/

set_option autoImplicit false

namespace Sharding.Command

open scoped Word

structure OptionForm where
  name : String
  letter : Option Char := none
  /-- The option is followed by a value. -/
  valued : Bool := true
  /-- The option can be given more than once. -/
  collects : Bool := false
  deriving DecidableEq, Repr

/-- An option as it was given; the value is empty if it takes none. -/
structure Given where
  form : OptionForm
  value : String := ""
  deriving DecidableEq, Repr

/-- An argument that can be the value of the option before it. -/
def isValue (argument : String) : Bool :=
  argument = "-" || argument.toList.head? ≠ some '-'

inductive Argument where
  /-- Nothing after this is an option. -/
  | stop
  /-- An option, with its value if that is attached. -/
  | option (form : OptionForm) (attached : Option String)
  /-- An option that is not known. -/
  | unknown
  | plain
  deriving DecidableEq, Repr

def attachedValue : List Char → Option String
  | [] => none
  | '=' :: value => some (String.ofList value)
  | value => some (String.ofList value)

def Argument.named (forms : List OptionForm) (name : String) (attached : Option String) :
    Argument :=
  match forms.find? fun form => form.name = name with
  | some form => .option form attached
  | none => .unknown

def Argument.read (forms : List OptionForm) (argument : String) : Argument :=
  match argument.toList with
  | ['-', '-'] => .stop
  | '-' :: '-' :: rest =>
    match Text.charsAround? ['='] rest with
    | some (name, value) => .named forms (String.ofList name) (some (String.ofList value))
    | none => .named forms (String.ofList rest) none
  | '-' :: letter :: rest =>
    match forms.find? fun form => form.letter = some letter with
    | some form => .option form (attachedValue rest)
    | none => .unknown
  | _ => .plain

/-- The options up to the first argument that is none, and the arguments from there on. Nothing
may follow the end of options. -/
def readOptions (forms : List OptionForm) : List String → Option (List Given × List String)
  | [] => some ([], [])
  | argument :: rest =>
    match Argument.read forms argument with
    | .plain => some ([], argument :: rest)
    | .stop => if rest.isEmpty then some ([], []) else none
    | .unknown => none
    | .option form attached =>
      let more (value : String) (rest : Option (List Given × List String)) :=
        rest.map fun (given, left) => (⟨form, value⟩ :: given, left)
      if form.valued then
        match attached, rest with
        | some value, rest => more value (readOptions forms rest)
        | none, value :: rest => if isValue value then more value (readOptions forms rest) else none
        | none, [] => none
      else if attached.isSome then none
      else more "" (readOptions forms rest)

def isOnce (given : List Given) : Bool :=
  given.all fun entry =>
    entry.form.collects || (given.filter fun other => other.form.name = entry.form.name).length = 1

/-- Options read as far as they go, none of them too often. -/
def options? (forms : List OptionForm) (arguments : List String) :
    Option (List Given × List String) := do
  let (given, rest) ← readOptions forms arguments
  if isOnce given then some (given, rest) else none

def valuesOf (given : List Given) (name : String) : List String :=
  (given.filter fun entry => entry.form.name = name).map (·.value)

def valueOf? (given : List Given) (name : String) : Option String :=
  (valuesOf given name).head?

def isGiven (given : List Given) (name : String) : Bool :=
  given.any fun entry => entry.form.name = name

/-! ## Commands -/

/-- What to route: tables, predicates on their columns and hints, as they were written. -/
structure RouteRequest where
  tables : List String
  equal : List String := []
  among : List String := []
  within : List String := []
  hintDatabase : List String := []
  hintTable : List String := []
  hintDatabaseOnly : Option String := none
  hintDataSource : Option String := none
  writeOnly : Bool := false
  deriving DecidableEq, Repr

inductive KeySource where
  | table (name : String)
  | generator (name : String)
  deriving DecidableEq, Repr

inductive Task where
  | validate
  /-- The nodes of one table or of all. -/
  | nodes (table : Option String)
  | route (request : RouteRequest)
  | keys (source : Option KeySource) (count : Nat)
  deriving DecidableEq, Repr

structure Invocation where
  /-- The path of the rule file. -/
  path : String := "rules.yaml"
  /-- Answers are written as documents. -/
  json : Bool := false
  task : Task
  deriving DecidableEq, Repr

def commonOptions : List OptionForm :=
  [{ name := "config", letter := some 'c' }, { name := "output-json", valued := false },
    { name := "log-format" }, { name := "verbosity" }]

def routeOptions : List OptionForm :=
  [{ name := "table", collects := true }, { name := "eq", collects := true },
    { name := "in", collects := true }, { name := "range", collects := true },
    { name := "hint-db", collects := true }, { name := "hint-table", collects := true },
    { name := "hint-db-only" }, { name := "hint-data-source" },
    { name := "write-only", valued := false }]

def keyOptions : List OptionForm :=
  [{ name := "table" }, { name := "generator" }, { name := "count", letter := some 'n' }]

def only? (forms : List OptionForm) (arguments : List String) : Option (List Given) := do
  let (given, rest) ← options? forms arguments
  if rest.isEmpty then some given else none

/-- A route is for one table at least, and the hint for every table goes with no hint for one. -/
def routeTask? (given : List Given) : Option Task :=
  let request : RouteRequest :=
    { tables := valuesOf given "table"
      equal := valuesOf given "eq"
      among := valuesOf given "in"
      within := valuesOf given "range"
      hintDatabase := valuesOf given "hint-db"
      hintTable := valuesOf given "hint-table"
      hintDatabaseOnly := valueOf? given "hint-db-only"
      hintDataSource := valueOf? given "hint-data-source"
      writeOnly := isGiven given "write-only" }
  if request.tables.isEmpty then none
  else if request.hintDatabaseOnly.isSome &&
      !(request.hintDatabase.isEmpty && request.hintTable.isEmpty) then none
  else some (.route request)

/-- The greatest count. -/
def maxCount : Nat := 2 ^ (64 : Nat) - 1

/-- A count: an optional plus and digits. -/
def count? (text : String) : Option Nat :=
  let digits := match text.toList with
    | '+' :: digits => digits
    | digits => digits
  if !digits.isEmpty && digits.all Char.isDigit then
    let count := Nat.ofDigitChars 10 digits 0
    if count ≤ maxCount then some count else none
  else none

/-- Keys come from a table or from a generator, not from both. One key is drawn unless more are
asked for. -/
def keyTask? (given : List Given) : Option Task := do
  let count ← match valueOf? given "count" with
    | some text => count? text
    | none => some 1
  match valueOf? given "table", valueOf? given "generator" with
  | some _, some _ => none
  | some table, none => some (.keys (some (.table table)) count)
  | none, some generator => some (.keys (some (.generator generator)) count)
  | none, none => some (.keys none count)

def task? : List String → Option Task
  | "validate" :: rest => do
    let _ ← only? [] rest
    return .validate
  | "nodes" :: rest => do
    let given ← only? [{ name := "table" }] rest
    return .nodes (valueOf? given "table")
  | "route" :: rest => do routeTask? (← only? routeOptions rest)
  | "keygen" :: rest => do keyTask? (← only? keyOptions rest)
  | _ => none

def Invocation.read? (arguments : List String) : Option Invocation := do
  let (given, rest) ← options? commonOptions arguments
  let task ← task? rest
  return { path := (valueOf? given "config").getD "rules.yaml"
           json := isGiven given "output-json"
           task }

end Sharding.Command
