import Sharding.Hint.Basic
import Sharding.Rule.Basic

/-!
# Groups in statements

Of the tables of a statement that belong to one group, one is the primary: it is routed by its
own strategies, and the others follow it node by node. The primary is the first one that a
sharding condition or a hint reaches, or simply the first one.
-/

set_option autoImplicit false

namespace Sharding

namespace TableRule

def Conditioned (rule : TableRule) (conditions : List Condition) : Prop :=
  ∃ condition ∈ conditions, ∃ entry ∈ condition.columns, rule.ShardsBy entry.column

instance (rule : TableRule) (conditions : List Condition) :
    Decidable (rule.Conditioned conditions) :=
  inferInstanceAs
    (Decidable (∃ condition ∈ conditions, ∃ entry ∈ condition.columns, rule.ShardsBy entry.column))

end TableRule

def IsHinted (hint : Option Hint) (table : String) : Prop :=
  ∃ given ∈ hint, given.Reaches table

instance (hint : Option Hint) (table : String) : Decidable (IsHinted hint table) :=
  inferInstanceAs (Decidable (∃ given ∈ hint, given.Reaches table))

namespace Rule

/-- The first member of the group of a table, which stands for the group. -/
def groupKey? (rule : Rule) (name : String) : Option String :=
  (rule.group? name).bind List.head?

def IsConditioned (rule : Rule) (statement : Statement) (name : String) : Prop :=
  ∃ table ∈ rule.table? name, table.Conditioned (statement.conditionsOn name)

instance (rule : Rule) (statement : Statement) (name : String) :
    Decidable (rule.IsConditioned statement name) :=
  inferInstanceAs
    (Decidable (∃ table ∈ rule.table? name, table.Conditioned (statement.conditionsOn name)))

def IsDriven (rule : Rule) (statement : Statement) (hint : Option Hint) (name : String) : Prop :=
  rule.IsConditioned statement name ∨ IsHinted hint name

instance (rule : Rule) (statement : Statement) (hint : Option Hint) (name : String) :
    Decidable (rule.IsDriven statement hint name) :=
  inferInstanceAs (Decidable (_ ∨ _))

/-- The tables of the statement that belong to the group of a first member. -/
def members (rule : Rule) (statement : Statement) (key : String) : List String :=
  statement.tableNames.filter fun name =>
    !rule.isBroadcast name && rule.isSharded name && rule.groupKey? name = some key

/-- The primary of the group of a table. -/
def primary? (rule : Rule) (statement : Statement) (hint : Option Hint) (name : String) :
    Option String :=
  (rule.groupKey? name).bind fun key =>
    let members := rule.members statement key
    (members.find? fun member => rule.IsDriven statement hint member) <|> members.head?

end Rule

namespace TableRule

/-- The node of a following table that corresponds to a node of its primary: on the same data
source and at the same place among the actual tables there. -/
def follow? (follower primary : TableRule) (node : DataNode) : Option DataNode := do
  let index ← (primary.actualTables node.dataSource).idxOf? node.table
  let table ← (follower.actualTables node.dataSource)[index]?
  return ⟨node.dataSource, table⟩

/-- The nodes of a following table for the nodes that its primary is routed to. -/
def follow (follower primary : TableRule) (nodes : List DataNode) : Except Error (List DataNode) :=
  match nodes.mapM (follower.follow? primary) with
  | some nodes => .ok nodes
  | none => .error (.noTarget follower.logicTable)

end TableRule

end Sharding
