import Sharding.Audit
import Sharding.Key.Snowflake
import Sharding.TableRule

/-!
# Rules

A rule is what a rule file comes to once its algorithms are set up and its patterns expanded. It
answers where the rows of tables may lie and never changes. Tables are looked up without regard
to case.
-/

set_option autoImplicit false

namespace Sharding

structure Rule where
  dataSources : List String
  /-- The data source of tables without a rule. -/
  defaultDataSource : Option String
  /-- The sharded tables by their names in lower case. -/
  tables : NameMap TableRule
  /-- Groups of tables that are sharded alike, by their names in lower case. -/
  groups : List (List String)
  /-- The names of the tables that every data source holds in full, by their names in lower
  case. -/
  broadcast : NameMap String
  algorithms : NameMap Placement
  keyGenerators : NameMap Snowflake
  auditors : NameMap Auditor
  /-- The digest of the rule file. -/
  fingerprint : String

namespace Rule

def table? (rule : Rule) (name : String) : Option TableRule :=
  rule.tables.get? (Name.fold name)

def isSharded (rule : Rule) (name : String) : Bool :=
  (rule.table? name).isSome

def isBroadcast (rule : Rule) (name : String) : Bool :=
  rule.broadcast.contains (Name.fold name)

/-- The names of the broadcast tables as they are spelled last. -/
def broadcastTables (rule : Rule) : List String :=
  rule.broadcast.values

/-- The nodes of a broadcast table: those of its rule, or else the table on every data source. -/
def broadcastNodes (rule : Rule) (name : String) : List DataNode :=
  match rule.table? name with
  | some table => table.nodes
  | none => rule.dataSources.map fun dataSource => ⟨dataSource, name⟩

def group? (rule : Rule) (name : String) : Option (List String) :=
  rule.groups.find? fun group => group.contains (Name.fold name)

end Rule

end Sharding
