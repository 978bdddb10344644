import Sharding.Text.Name
import Sharding.Value

/-!
# Statements

What routing needs to know of a statement: its logic tables and the sharding conditions found on
them. The predicates of one condition hold together; conditions on one table are alternatives.
Names of tables and columns are compared without regard to case.
-/

set_option autoImplicit false

namespace Sharding

inductive Predicate where
  | equal (value : Value)
  | within (range : ValueRange)
  | among (values : List Value)
  deriving DecidableEq, Repr

namespace Predicate

def kind : Predicate → String
  | .equal _ => "precise"
  | .within _ => "range"
  | .among _ => "list"

def shown : Predicate → String
  | .equal value => "= " ++ value.shown
  | .within range => "in " ++ range.shown
  | .among values => "in (" ++ ", ".intercalate (values.map Value.shown) ++ ")"

end Predicate

structure ColumnPredicate where
  column : String
  predicate : Predicate
  deriving DecidableEq, Repr

structure Condition where
  table : String
  columns : List ColumnPredicate
  deriving DecidableEq, Repr

namespace Condition

def AppliesTo (condition : Condition) (table : String) : Prop :=
  Name.Same condition.table table

instance (condition : Condition) (table : String) : Decidable (condition.AppliesTo table) :=
  inferInstanceAs (Decidable (Name.Same _ _))

def predicate? (condition : Condition) (column : String) : Option Predicate :=
  (condition.columns.find? fun entry => Name.Same entry.column column).map (·.predicate)

end Condition

/-- The logic tables of a statement and the conditions on them. -/
structure Statement where
  tables : List String := []
  conditions : List Condition := []
  deriving DecidableEq, Repr

/-- The names without those that repeat an earlier one in any spelling. -/
def distinctNames : List String → List String
  | [] => []
  | name :: rest => name :: (distinctNames rest).filter fun other => ¬ Name.Same other name

namespace Statement

/-- All tables of the statement, each in its first spelling: those listed, then those that only
conditions name. -/
def tableNames (statement : Statement) : List String :=
  distinctNames (statement.tables ++ statement.conditions.map (·.table))

def conditionsOn (statement : Statement) (table : String) : List Condition :=
  statement.conditions.filter fun condition => condition.AppliesTo table

end Statement

end Sharding
