import Sharding.Properties

/-!
# Rule files

What a rule file says: the data sources, the sharded tables with their strategies, the groups of
tables that are sharded alike and the algorithms that all of them refer to by name.
-/

set_option autoImplicit false

namespace Sharding

/-- Sharding by the value of one column, the default column if none is named. -/
structure StandardEntry where
  column : Option String := none
  algorithm : String
  deriving DecidableEq, Repr

/-- Sharding by the values of several columns, written as a list. -/
structure ComplexEntry where
  columns : String
  algorithm : String
  deriving DecidableEq, Repr

/-- Sharding by hinted values. -/
structure HintEntry where
  algorithm : String
  deriving DecidableEq, Repr

/-- The strategy of one dimension. At most one kind may be set; with none set the dimension is not
sharded, which `unsharded` says openly. -/
structure StrategyEntry where
  standard : Option StandardEntry := none
  complex : Option ComplexEntry := none
  hint : Option HintEntry := none
  unsharded : Bool := false
  deriving DecidableEq, Repr

namespace StrategyEntry

def kindsSet (entry : StrategyEntry) : Nat :=
  ([entry.standard.isSome, entry.complex.isSome, entry.hint.isSome, entry.unsharded].filter
    id).length

/-- The name of the algorithm, of the first kind that has one. -/
def algorithm? (entry : StrategyEntry) : Option String :=
  match entry.standard, entry.complex with
  | some standard, _ => some standard.algorithm
  | none, some complex => some complex.algorithm
  | none, none => entry.hint.map (·.algorithm)

end StrategyEntry

/-- The column that generated keys are for, and the generator. -/
structure KeyEntry where
  column : String
  generator : String
  deriving DecidableEq, Repr

/-- The auditors of a table, and whether their verdict counts. -/
structure AuditEntry where
  auditors : List String
  force : Bool := false
  deriving DecidableEq, Repr

/-- A sharded table. Without a pattern its nodes are the table itself on every data source. -/
structure TableEntry where
  nodes : Option String := none
  databaseStrategy : Option StrategyEntry := none
  tableStrategy : Option StrategyEntry := none
  key : Option KeyEntry := none
  audit : Option AuditEntry := none
  deriving DecidableEq, Repr

/-- A table whose actual tables its sharding algorithm lays out, on the listed data sources or
on all. -/
structure AutoTableEntry where
  dataSources : Option String := none
  strategy : StrategyEntry
  key : Option KeyEntry := none
  audit : Option AuditEntry := none
  deriving DecidableEq, Repr

structure AlgorithmEntry where
  type : String
  properties : Properties := .empty
  deriving DecidableEq

structure RuleFile where
  dataSources : List String
  /-- The data source of tables without a rule. -/
  defaultDataSource : Option String := none
  tables : NameMap TableEntry := .empty
  autoTables : NameMap AutoTableEntry := .empty
  /-- Groups of tables that are sharded alike, each written as a list. -/
  bindingTables : List String := []
  /-- Tables that every data source holds in full. -/
  broadcastTables : List String := []
  defaultDatabaseStrategy : Option StrategyEntry := none
  defaultTableStrategy : Option StrategyEntry := none
  defaultKey : Option KeyEntry := none
  defaultAudit : Option AuditEntry := none
  /-- The column of standard strategies that name none. -/
  defaultColumn : Option String := none
  algorithms : NameMap AlgorithmEntry := .empty
  keyGenerators : NameMap AlgorithmEntry := .empty
  auditors : NameMap AlgorithmEntry := .empty
  deriving DecidableEq

namespace RuleFile

/-- The data source of tables without a rule: the one that is named, or else the only one. -/
def resolvedDefault (file : RuleFile) : Option String :=
  match file.defaultDataSource, file.dataSources with
  | some name, _ => some name
  | none, [only] => some only
  | none, _ => none

end RuleFile

end Sharding
