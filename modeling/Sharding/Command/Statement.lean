import Sharding.Command.Arguments
import Sharding.Error.Fault
import Sharding.Hint.Basic
import Sharding.Statement

/-!
# Statements on the command line

Predicates are written `table.column=value`, values for hints `table=value`. All predicates on one
table make up one condition, so they hold together.
-/

set_option autoImplicit false

namespace Sharding.Command

/-- The two sides of an equals sign without blank margins, neither of them empty. -/
def pair? (text : String) : Option (String × String) := do
  let (left, right) ← Text.around? "=" text
  let left := Text.trim left
  let right := Text.trim right
  if left.isEmpty || right.isEmpty then none else some (left, right)

def splitPair (text : String) : Except CommandFault (String × String) :=
  match pair? text with
  | some pair => .ok pair
  | none => .error (.notPair text)

/-- The table and the column around the first point, neither of them empty. -/
def target? (text : String) : Option (String × String) := do
  let (table, column) ← Text.around? "." text
  if table.isEmpty || column.isEmpty then none else some (table, column)

/-- What a predicate is on, and the text of what it requires. -/
structure Target where
  table : String
  column : String
  required : String
  deriving DecidableEq, Repr

def splitPredicate (text : String) : Except CommandFault Target := do
  let (target, required) ← splitPair text
  match target? target with
  | some (table, column) => return { table, column, required }
  | none => .error (.notColumnPair text)

/-- A range between two dots, open at an empty side. -/
def readRange (text : String) : Except CommandFault ValueRange :=
  match Text.around? ".." text with
  | none => .error (.notRange text)
  | some (lower, upper) =>
    let lower := Text.trim lower
    let upper := Text.trim upper
    .ok <| match lower.isEmpty, upper.isEmpty with
      | false, false => .closed (.ofLiteral lower) (.ofLiteral upper)
      | false, true => .atLeast (.ofLiteral lower)
      | true, false => .atMost (.ofLiteral upper)
      | true, true => .all

def commaParts (text : String) : List String :=
  (text.toList.splitOn ',').map String.ofList

structure TablePredicate where
  table : String
  entry : ColumnPredicate
  deriving DecidableEq, Repr

def readPredicate (read : String → Except CommandFault Predicate) (text : String) :
    Except CommandFault TablePredicate := do
  let target ← splitPredicate text
  return ⟨target.table, ⟨target.column, ← read target.required⟩⟩

def readEqual (text : String) : Except CommandFault Predicate :=
  .ok (.equal (.ofLiteral text))

def readAmong (text : String) : Except CommandFault Predicate :=
  .ok (.among ((commaParts text).map Value.ofLiteral))

def readWithin (text : String) : Except CommandFault Predicate :=
  (readRange text).map .within

/-- All predicates of a request: equalities, then lists, then ranges. -/
def RouteRequest.predicates (request : RouteRequest) :
    Except CommandFault (List TablePredicate) := do
  let equal ← request.equal.mapM (readPredicate readEqual)
  let among ← request.among.mapM (readPredicate readAmong)
  let within ← request.within.mapM (readPredicate readWithin)
  return equal ++ among ++ within

/-- The conditions with a predicate added to the one on its table, or as a new one. -/
def addPredicate : List Condition → TablePredicate → List Condition
  | [], predicate => [⟨predicate.table, [predicate.entry]⟩]
  | condition :: rest, predicate =>
    if condition.AppliesTo predicate.table then
      { condition with columns := condition.columns ++ [predicate.entry] } :: rest
    else condition :: addPredicate rest predicate

def RouteRequest.statement (request : RouteRequest) : Except CommandFault Statement := do
  return { tables := request.tables, conditions := (← request.predicates).foldl addPredicate [] }

/-- The changes that a request makes to the hint, in order. -/
def RouteRequest.changes (request : RouteRequest) : Except CommandFault (List Hint.Change) := do
  let everyTable := request.hintDatabaseOnly.toList.map fun value =>
    Hint.Change.databaseOnly (.ofLiteral value)
  let database ← request.hintDatabase.mapM fun text => do
    let (table, value) ← splitPair text
    return Hint.Change.database table (.ofLiteral value)
  let tables ← request.hintTable.mapM fun text => do
    let (table, value) ← splitPair text
    return Hint.Change.table table (.ofLiteral value)
  let dataSource := request.hintDataSource.toList.map Hint.Change.dataSource
  let writeOnly := if request.writeOnly then [Hint.Change.writeOnly] else []
  return everyTable ++ database ++ tables ++ dataSource ++ writeOnly

end Sharding.Command
