import Sharding.Hint.Basic
import Sharding.Rule.Basic

/-!
# Selection

How a strategy narrows its candidates down. Hinted values and the alternatives of a statement are
taken one after the other and every candidate that one of them selects is kept. An alternative
that says nothing about the sharding columns selects every candidate.
-/

set_option autoImplicit false

namespace Sharding

inductive Evidence where
  | hinted (values : List Value)
  /-- The conditions on the table, any of which may hold. -/
  | conditions (alternatives : List Condition)
  deriving DecidableEq, Repr

namespace StandardPlacement

def selectAmong (placement : StandardPlacement) (candidates : List String) (column : String)
    (values : List Value) : Except Error (List String) := do
  let selected ← values.mapM fun value => placement.selectEqual candidates column value
  return selected.filterMap id

def select (placement : StandardPlacement) (candidates : List String) (column : String) :
    Predicate → Except Error (List String)
  | .equal value => placement.selectAmong candidates column [value]
  | .within range => placement.selectWithin candidates column range
  | .among values => placement.selectAmong candidates column values

end StandardPlacement

/-- What all alternatives select together, or nothing as soon as one of them leaves the choice
open. -/
def selectAny {α : Type} (select : α → Except Error (Option (List String))) :
    List α → Except Error (Option (List String))
  | [] => .ok (some [])
  | alternative :: rest => do
    match ← select alternative with
    | none => return none
    | some names =>
      match ← selectAny select rest with
      | none => return none
      | some others => return some (names ++ others)

/-- What alternatives select together. No alternative leaves the choice open. -/
def selectBy (select : Condition → Except Error (Option (List String))) :
    List Condition → Except Error (Option (List String))
  | [] => .ok none
  | alternatives => selectAny select alternatives

namespace Condition

/-- The predicates on columns, by the names of the columns. -/
def predicates (condition : Condition) (columns : List String) : NameMap Predicate :=
  .ofList (columns.filterMap fun column =>
    (condition.predicate? column).map fun predicate => (column, predicate))

end Condition

namespace Strategy

def selectColumn (column : String) (placement : StandardPlacement) (candidates : List String)
    (condition : Condition) : Except Error (Option (List String)) :=
  match condition.predicate? column with
  | none => .ok none
  | some predicate => do return some (← placement.select candidates column predicate)

def selectColumns (columns : List String) (placement : ComplexPlacement)
    (candidates : List String) (condition : Condition) : Except Error (Option (List String)) :=
  let predicates := condition.predicates columns
  if predicates.isEmpty then .ok none
  else do return some (← placement.select candidates predicates)

/-- The names that a strategy selects for a table, or nothing if the choice is open. -/
def selected (table : String) (candidates : List String) :
    Strategy → Evidence → Except Error (Option (List String))
  | .unsharded, _ => .ok none
  | .hint _ _, .conditions _ => .ok none
  | .hint _ placement, .hinted values => do return some (← placement.select candidates values)
  | .standard column _ placement, .hinted values => do
    return some (← placement.selectAmong candidates column values)
  | .standard column _ placement, .conditions alternatives =>
    selectBy (selectColumn column placement candidates) alternatives
  | .complex _ algorithm _, .hinted _ => .error (.mismatch table (.hintedComplex algorithm))
  | .complex columns _ placement, .conditions alternatives =>
    selectBy (selectColumns columns placement candidates) alternatives

/-- The error of a placement as one of the table that is routed. -/
def mismatch (table : String) : Error → Error
  | .selection type fault => .mismatch table (.selection type fault)
  | error => error

/-- The candidates that a strategy selects for a table, in candidate order. -/
def select (strategy : Strategy) (table : String) (candidates : List String)
    (evidence : Evidence) : Except Error (List String) :=
  match strategy.selected table candidates evidence with
  | .error error => .error (mismatch table error)
  | .ok none => .ok candidates
  | .ok (some names) => .ok (retain candidates names)

end Strategy

namespace TableRule

/-- Where the choice of data sources takes its values from: hinted ones if there are any. -/
def databaseEvidence (rule : TableRule) (conditions : List Condition) (hint : Option Hint) :
    Evidence :=
  match hint with
  | none => .conditions conditions
  | some hint =>
    if hint.databaseOnly then .hinted hint.unkeyedValues
    else match hint.databaseValuesFor rule.logicTable with
      | [] => .conditions conditions
      | values => .hinted values

/-- Where the choice of actual tables takes its values from. -/
def tableEvidence (rule : TableRule) (conditions : List Condition) (hint : Option Hint) :
    Evidence :=
  match (hint.map fun hint => hint.tableValuesFor rule.logicTable).getD [] with
  | [] => .conditions conditions
  | values => .hinted values

def selectOn (rule : TableRule) (evidence : Evidence) (dataSource : String) :
    Except Error (List DataNode) := do
  let tables ←
    rule.tableStrategy.select rule.logicTable (rule.actualTables dataSource) evidence
  return tables.map fun table => ⟨dataSource, table⟩

/-- The nodes that the strategies of a table select: its database strategy among its data sources,
then its table strategy among the actual tables of each one selected. -/
def select (rule : TableRule) (conditions : List Condition) (hint : Option Hint) :
    Except Error (List DataNode) := do
  let dataSources ← rule.databaseStrategy.select rule.logicTable rule.dataSources
    (rule.databaseEvidence conditions hint)
  let nodes ← dataSources.mapM (rule.selectOn (rule.tableEvidence conditions hint))
  if nodes.flatten.isEmpty then .error (.noTarget rule.logicTable) else return nodes.flatten

end TableRule

end Sharding
