import Sharding.NameMap
import Sharding.Text.Name
import Sharding.Value

/-!
# Hints

Sharding values that the caller gives beside a statement, to be used in place of its conditions.
Values are for one table each, or a single value decides on the data source of every table. A
hint is the outcome of its changes in order.
-/

set_option autoImplicit false

namespace Sharding

structure Hint where
  /-- The values for data sources by table names in lower case. -/
  databaseValues : NameMap (List Value) := .empty
  /-- The values for actual tables by table names in lower case. -/
  tableValues : NameMap (List Value) := .empty
  /-- The value under the empty name decides on the data source of every table. -/
  databaseOnly : Bool := false
  /-- Reads have to go where writes go. -/
  writeOnly : Bool := false
  /-- The data source that the whole statement goes to. -/
  dataSource : Option String := none
  deriving DecidableEq

namespace Hint

def everyTable : String := ""

inductive Change where
  /-- One value for the data source of every table, in place of all values so far. -/
  | databaseOnly (value : Value)
  /-- One more value for the data source of a table. -/
  | database (table : String) (value : Value)
  /-- One more value for the actual table of a table. -/
  | table (table : String) (value : Value)
  | writeOnly
  | readWrite
  | dataSource (dataSource : String)
  | clear
  deriving DecidableEq, Repr

def append (values : NameMap (List Value)) (table : String) (value : Value) :
    NameMap (List Value) :=
  let key := Name.fold table
  values.insert key ((values.get? key).getD [] ++ [value])

def leaveDatabaseOnly (hint : Hint) : Hint :=
  if hint.databaseOnly then
    { hint with databaseValues := hint.databaseValues.erase everyTable, databaseOnly := false }
  else hint

/-- The hint after a change. A value for a table ends the rule of a single value for all. -/
def apply (hint : Hint) : Change → Hint
  | .databaseOnly value =>
    { hint with
      databaseValues := NameMap.empty.insert everyTable [value]
      tableValues := .empty
      databaseOnly := true }
  | .database table value =>
    let hint := hint.leaveDatabaseOnly
    { hint with databaseValues := append hint.databaseValues table value }
  | .table table value =>
    let hint := hint.leaveDatabaseOnly
    { hint with tableValues := append hint.tableValues table value }
  | .writeOnly => { hint with writeOnly := true }
  | .readWrite => { hint with writeOnly := false }
  | .dataSource dataSource => { hint with dataSource := some dataSource }
  | .clear => {}

def ofChanges (changes : List Change) : Hint :=
  changes.foldl apply {}

def databaseValuesFor (hint : Hint) (table : String) : List Value :=
  (hint.databaseValues.get? (Name.fold table)).getD []

def unkeyedValues (hint : Hint) : List Value :=
  (hint.databaseValues.get? everyTable).getD []

def tableValuesFor (hint : Hint) (table : String) : List Value :=
  (hint.tableValues.get? (Name.fold table)).getD []

def Reaches (hint : Hint) (table : String) : Prop :=
  hint.databaseOnly = true ∨ hint.databaseValuesFor table ≠ [] ∨ hint.tableValuesFor table ≠ []

instance (hint : Hint) (table : String) : Decidable (hint.Reaches table) :=
  inferInstanceAs (Decidable (_ ∨ _ ∨ _))

end Hint

end Sharding
