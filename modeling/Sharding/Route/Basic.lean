import Sharding.DataNode
import Sharding.Document
import Sharding.Text.Name

/-!
# Routes

Where a statement goes: for each of its logic tables the data nodes it reaches there, and why.
-/

set_option autoImplicit false

namespace Sharding

inductive RouteSource where
  /-- By the strategies of the table. -/
  | sharded
  /-- Like another member of its group. -/
  | binding (primary : String)
  /-- To every node of a broadcast table. -/
  | broadcast
  /-- To the data source of tables without a rule. -/
  | default
  /-- To a hinted data source. -/
  | hinted
  deriving DecidableEq, Repr

structure TableRoute where
  /-- The name as the statement spells it first. -/
  table : String
  nodes : List DataNode
  source : RouteSource
  deriving DecidableEq, Repr

/-- The routes of all tables of a statement, in the order of its tables. -/
structure Route where
  tables : List TableRoute := []
  /-- Reads have to go where writes go. -/
  writeOnly : Bool := false
  deriving DecidableEq, Repr

namespace RouteSource

def shown : RouteSource → String
  | .sharded => "sharded"
  | .binding primary => "binding(" ++ primary ++ ")"
  | .broadcast => "broadcast"
  | .default => "default"
  | .hinted => "hinted"

def kind : RouteSource → String
  | .sharded => "sharded"
  | .binding _ => "binding"
  | .broadcast => "broadcast"
  | .default => "default"
  | .hinted => "hinted"

def toDocument (source : RouteSource) : Document :=
  let primary := match source with
    | .binding primary => [("primary", .text primary)]
    | _ => []
  .record (("kind", .text source.kind) :: primary)

end RouteSource

def DataNode.toDocument (node : DataNode) : Document :=
  .record [("data_source", .text node.dataSource), ("table", .text node.table)]

def TableRoute.toDocument (route : TableRoute) : Document :=
  .record
    [("logic_table", .text route.table), ("nodes", .list (route.nodes.map DataNode.toDocument)),
      ("source", route.source.toDocument)]

namespace Route

def toDocument (route : Route) : Document :=
  .record
    [("table_routes", .list (route.tables.map TableRoute.toDocument)),
      ("write_route_only", .bool route.writeOnly)]

def table? (route : Route) (name : String) : Option TableRoute :=
  route.tables.find? fun entry => Name.Same entry.table name

def nodesFor (route : Route) (name : String) : List DataNode :=
  ((route.table? name).map (·.nodes)).getD []

def allNodes (route : Route) : List DataNode :=
  route.tables.flatMap (·.nodes)

def nodes (route : Route) : List DataNode :=
  route.allNodes.eraseDups

/-- The data sources that the statement reaches, each once. -/
def dataSources (route : Route) : List String :=
  (route.allNodes.map (·.dataSource)).eraseDups

def isSingle (route : Route) : Bool :=
  route.dataSources.length = 1

end Route

end Sharding
