import Sharding.Hint.Context
import Sharding.Route.Audit
import Sharding.Route.Basic
import Sharding.Route.Group
import Sharding.Route.Selection

/-!
# Routing

A rule routes a statement table by table. Broadcast tables go to all of their nodes, sharded
tables where their strategies lead, members of a group where their primary leads, and all others
to the default data source. Hinted values take precedence over conditions, and a hinted data
source over everything. An error on one table is the error of the whole statement.
-/

set_option autoImplicit false

namespace Sharding.Rule

def routeTo (rule : Rule) (tables : List String) (dataSource : String) (writeOnly : Bool) :
    Except Error Route :=
  if dataSource ∈ rule.dataSources then
    .ok { tables := tables.map fun table => ⟨table, [⟨dataSource, table⟩], .hinted⟩, writeOnly }
  else .error (.mismatch (tables.head?.getD "*") (.unknownDataSource dataSource))

def routeDefault (rule : Rule) (name : String) : Except Error TableRoute :=
  match rule.defaultDataSource with
  | some dataSource => .ok ⟨name, [⟨dataSource, name⟩], .default⟩
  | none => .error (.noDefault name)

def routeSharded (rule : Rule) (statement : Statement) (hint : Option Hint) (name : String)
    (table : TableRule) : Except Error TableRoute := do
  let conditions := statement.conditionsOn name
  rule.audit table (decide (table.Conditioned conditions)) (decide (IsHinted hint name))
  return ⟨name, ← table.select conditions hint, .sharded⟩

/-- The route of a table that follows no other, and nothing for a table that does. -/
def routeLeading (rule : Rule) (statement : Statement) (hint : Option Hint) (name : String) :
    Except Error (Option TableRoute) :=
  if rule.isBroadcast name then .ok (some ⟨name, rule.broadcastNodes name, .broadcast⟩)
  else match rule.table? name with
    | none => do return some (← rule.routeDefault name)
    | some table =>
      if (rule.primary? statement hint name).any fun primary => ¬ Name.Same primary name then
        .ok none
      else do return some (← rule.routeSharded statement hint name table)

/-- The route of a table that follows its primary, given the routes of the tables that follow
none. -/
def routeFollowing (rule : Rule) (statement : Statement) (hint : Option Hint)
    (leading : List TableRoute) (name : String) : Except Error TableRoute :=
  match rule.table? name, rule.primary? statement hint name with
  | some table, some primary =>
    match rule.table? primary, leading.find? fun route => Name.Same route.table primary with
    | some primaryTable, some route => do
      rule.audit table
        (decide (rule.IsConditioned statement name ∨ rule.IsConditioned statement primary))
        (decide (IsHinted hint name ∨ IsHinted hint primary))
      return ⟨name, ← table.follow primaryTable route.nodes, .binding primary⟩
    | _, _ => .error (.noTarget name)
  | _, _ => .error (.noTarget name)

/-- The route that a table has already, or else the one after its primary. -/
def complete (rule : Rule) (statement : Statement) (hint : Option Hint)
    (leading : List TableRoute) : String × Option TableRoute → Except Error TableRoute
  | (_, some route) => .ok route
  | (name, none) => rule.routeFollowing statement hint leading name

/-- Routes a statement. The tables that follow no other come first, so that an error on one of
them wins over an error on one that does. -/
def route (rule : Rule) (statement : Statement) (hint : Option Hint) : Except Error Route :=
  let tables := statement.tableNames
  let writeOnly := (hint.map (·.writeOnly)).getD false
  match hint.bind (·.dataSource) with
  | some dataSource => rule.routeTo tables dataSource writeOnly
  | none => do
    let slots ← tables.mapM (rule.routeLeading statement hint)
    let leading := slots.filterMap id
    let routes ← (tables.zip slots).mapM (rule.complete statement hint leading)
    return { tables := routes, writeOnly }

/-- Routes a statement with the hint of the work in progress. -/
def routeIn (rule : Rule) (context : HintContext) (statement : Statement) : Except Error Route :=
  rule.route statement context

end Sharding.Rule
