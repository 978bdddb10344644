import Sharding.DataNode
import Sharding.Strategy

/-!
# Table rules

What routing knows of a sharded table: its data nodes in order, its two strategies and the
settings of its keys and its audit, with the defaults of the rule file filled in.
-/

set_option autoImplicit false

namespace Sharding

structure TableRule where
  /-- The name as the rule file spells it. -/
  logicTable : String
  nodes : List DataNode
  databaseStrategy : Strategy := .unsharded
  tableStrategy : Strategy := .unsharded
  key : Option KeyEntry := none
  audit : Option AuditEntry := none
  /-- The nodes were laid out by the sharding algorithm. -/
  auto : Bool := false

namespace TableRule

/-- The data sources of the nodes, each once, in the order of the nodes. -/
def dataSources (rule : TableRule) : List String :=
  (rule.nodes.map (·.dataSource)).eraseDups

/-- The tables on a data source, in the order of the nodes. -/
def actualTables (rule : TableRule) (dataSource : String) : List String :=
  (rule.nodes.filter fun node => node.dataSource = dataSource).map (·.table)

def shardingColumns (rule : TableRule) : List String :=
  rule.databaseStrategy.columns ++ rule.tableStrategy.columns

def ShardsBy (rule : TableRule) (column : String) : Prop :=
  ∃ other ∈ rule.shardingColumns, Name.Same other column

instance (rule : TableRule) (column : String) : Decidable (rule.ShardsBy column) :=
  inferInstanceAs (Decidable (∃ other ∈ rule.shardingColumns, Name.Same other column))

/-- The data sources with the number of tables on each. Tables with equal shapes correspond node
by node. -/
def shape (rule : TableRule) : List (String × Nat) :=
  rule.dataSources.map fun dataSource => (dataSource, (rule.actualTables dataSource).length)

/-- The nodes of `count` tables that are named by number and dealt out to the data sources in
turn. -/
def layout (logicTable : String) (dataSources : List String) (count : Nat) : List DataNode :=
  (List.range count).filterMap fun (index : Nat) =>
    dataSources[index % dataSources.length]?.map fun dataSource =>
      ⟨dataSource, logicTable ++ "_" ++ toString index⟩

/-- The table has nodes, and all of them are on declared data sources. -/
def checkNodes (table : String) (nodes : List DataNode) (dataSources : List String) :
    Except RuleFault Unit :=
  if nodes.isEmpty then .error (.noNodes table)
  else match nodes.find? fun node => node.dataSource ∉ dataSources with
    | some node => .error (.undeclaredSource table node)
    | none => .ok ()

end TableRule

end Sharding
