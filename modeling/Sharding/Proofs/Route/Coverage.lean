import Sharding.Proofs.Placement.Coverage
import Sharding.Proofs.Route.Passes
import Sharding.Proofs.Route.Selection

/-!
# Coverage of routes

A statement reaches every row that its conditions ask for: the node that holds the row is among
the nodes of the route. Shown for tables that stand alone and are sharded by template or by volume,
or not at all, in either dimension.
-/

set_option autoImplicit false

namespace Sharding

/-! ## Rows and their homes -/

/-- The sharding values of a row, by column names in any spelling. -/
structure Row where
  value (column : String) : Value
  value_congr {left right : String} (same : Name.Same left right) : value left = value right

/-- All predicates of a condition hold for a row. -/
def Condition.Holds (condition : Condition) (row : Row) : Prop :=
  ∀ entry ∈ condition.columns, entry.predicate.Holds (row.value entry.column)

/-- A row is one that some alternative asks for. Without alternatives every row is. -/
def Row.Matches (row : Row) (alternatives : List Condition) : Prop :=
  alternatives = [] ∨ ∃ condition ∈ alternatives, condition.Holds row

/-- The candidates that may hold a row. -/
inductive Strategy.Houses (row : Row) (candidates : List String) : Strategy → String → Prop where
  | unsharded {place : String} (candidate : place ∈ candidates) :
      Houses row candidates .unsharded place
  | standard {column algorithm place : String} {placement : StandardPlacement}
      (placed : placement.selectEqual candidates column (row.value column) = .ok (some place)) :
      Houses row candidates (.standard column algorithm placement) place

/-- A node may hold a row: its data source does, and its table among the tables there. -/
def TableRule.IsHome (table : TableRule) (row : Row) (node : DataNode) : Prop :=
  table.databaseStrategy.Houses row table.dataSources node.dataSource ∧
    table.tableStrategy.Houses row (table.actualTables node.dataSource) node.table

/-- The strategies by template or by volume over one column, and none at all. -/
inductive Strategy.Direct : Strategy → Prop where
  | unsharded : Direct .unsharded
  | inline {column algorithm : String} (inline : Inline) :
      Direct (.standard column algorithm inline.placement)
  | volume {column algorithm : String} (volume : Volume) :
      Direct (.standard column algorithm volume.placement)

/-! ## What strategies select -/

section

variable {row : Row} {alternatives : List Condition} {candidates names : List String}
  {place : String}

theorem mem_retain (candidate : place ∈ candidates) (selected : place ∈ names) :
    place ∈ retain candidates names :=
  mem_retain_iff.mpr ⟨candidate, place, selected, Name.Same.refl place⟩

theorem Condition.Holds.predicate {condition : Condition} {column : String} {predicate : Predicate}
    (holds : condition.Holds row) (found : condition.predicate? column = some predicate) :
    predicate.Holds (row.value column) := by
  obtain ⟨entry, foundEntry, rfl⟩ := Option.map_eq_some_iff.mp found
  have same : Name.Same entry.column column := by simpa using List.find?_some foundEntry
  rw [← row.value_congr same]
  exact holds entry (List.mem_of_find?_eq_some foundEntry)

namespace Strategy

variable {column : String} {placement : StandardPlacement}

theorem mem_of_selectBy (covers : placement.Covers) (wanted : row.Matches alternatives)
    (placed : placement.selectEqual candidates column (row.value column) = .ok (some place))
    (selected : selectBy (selectColumn column placement candidates) alternatives =
      .ok (some names)) : place ∈ names := by
  cases alternatives with
  | nil => simp [selectBy] at selected
  | cons first rest =>
      obtain empty | ⟨condition, member, holds⟩ := wanted
      · cases empty
      · obtain ⟨own, ownSelected, inside⟩ := selectAny_eq_some selected condition member
        unfold selectColumn at ownSelected
        cases found : condition.predicate? column with
        | none => simp [found] at ownSelected
        | some predicate =>
            simp only [found, bind_eq_ok, pure_eq_ok, Option.some.injEq] at ownSelected
            obtain ⟨_, predicateSelected, rfl⟩ := ownSelected
            exact inside (covers.mem_of_select (holds.predicate found) placed predicateSelected)

theorem Direct.covers {algorithm : String}
    (direct : Direct (.standard column algorithm placement)) : placement.Covers := by
  cases direct with
  | inline inline => exact inline.covers
  | volume volume => exact volume.covers

theorem Direct.mem_of_select {strategy : Strategy} {table : String} {chosen : List String}
    (direct : strategy.Direct) (wanted : row.Matches alternatives)
    (houses : strategy.Houses row candidates place)
    (selected : strategy.select table candidates (.conditions alternatives) = .ok chosen) :
    place ∈ chosen := by
  cases houses with
  | unsharded candidate =>
      cases selected
      exact candidate
  | standard placed =>
      have candidate := direct.covers.candidate placed
      rcases Strategy.select_eq_ok selected with ⟨_, rfl⟩ | ⟨names, some, rfl⟩
      · exact candidate
      · exact mem_retain candidate (mem_of_selectBy direct.covers wanted placed some)

end Strategy

end

/-! ## Whole routes -/

theorem TableRule.mem_of_select {table : TableRule} {row : Row} {node : DataNode}
    {alternatives : List Condition} {nodes : List DataNode}
    (direct : table.databaseStrategy.Direct ∧ table.tableStrategy.Direct)
    (wanted : row.Matches alternatives) (home : table.IsHome row node)
    (selected : table.select alternatives none = .ok nodes) : node ∈ nodes := by
  obtain ⟨_, dataSources, groups, sourcesSelected, walked, rfl⟩ := TableRule.select_eq_ok selected
  have source := direct.1.mem_of_select wanted home.1 sourcesSelected
  obtain ⟨group, groupMember, groupSelected⟩ := exists_right_of_mem walked source
  obtain ⟨tables, tablesSelected, rfl⟩ := selectOn_eq_ok groupSelected
  have member := direct.2.mem_of_select wanted home.2 tablesSelected
  exact List.mem_flatten.mpr ⟨_, groupMember, List.mem_map.mpr ⟨node.table, member, rfl⟩⟩

/-- No rows are lost: a row that a statement asks for lies on a node of the route of its table. -/
theorem Rule.home_mem_nodesFor {rule : Rule} {statement : Statement} {name : String}
    {table : TableRule} {route : Route} {row : Row} {node : DataNode}
    (ruled : rule.table? name = some table) (notBroadcast : rule.isBroadcast name = false)
    (alone : rule.group? name = none)
    (direct : table.databaseStrategy.Direct ∧ table.tableStrategy.Direct)
    (named : statement.Names name) (routed : rule.route statement none = .ok route)
    (wanted : row.Matches (statement.conditionsOn name)) (home : table.IsHome row node) :
    node ∈ route.nodesFor name := by
  obtain ⟨first, entry, same, arrives, found⟩ :=
    exists_table?_of_arrives (arrives_of_route rfl routed) named
  rw [← table?_congr same] at ruled
  rw [← isBroadcast_congr same] at notBroadcast
  rw [← group?_congr same] at alone
  rw [← Statement.conditionsOn_congr same] at wanted
  obtain ⟨_, nodes, selected, rfl⟩ := arrives.sharded_of_alone ruled notBroadcast alone
  have member : node ∈ nodes := TableRule.mem_of_select direct wanted home selected
  rw [Route.nodesFor, Route.table?, found]
  exact member

/-- Data sources by the parity of the user, tables by the volume of orders. -/
private def orderTable : TableRule where
  logicTable := "t_order"
  nodes :=
    [⟨"ds_0", "t_order_0"⟩, ⟨"ds_0", "t_order_1"⟩, ⟨"ds_1", "t_order_0"⟩, ⟨"ds_1", "t_order_1"⟩]
  databaseStrategy := .standard "user_id" "parity" (Inline.placement
    ⟨"ds_$\x7buser_id % 2\x7d",
      [.literal "ds_", .placeholder (.single (.binary .rem (.name "user_id") (.int 2)))]⟩)
  tableStrategy := .standard "order_id" "volume" (Volume.placement
    ⟨10, 30, 10, by decide, by decide, by decide⟩)

private def orderRule : Rule where
  dataSources := ["ds_0", "ds_1"]
  defaultDataSource := none
  tables := .ofList [("t_order", orderTable)]
  groups := []
  broadcast := .empty
  algorithms := .empty
  keyGenerators := .empty
  auditors := .empty
  fingerprint := ""

private def orderStatement : Statement where
  tables := ["t_order"]
  conditions :=
    [⟨"t_order", [⟨"user_id", .among [.int 5, .int 7]⟩,
      ⟨"order_id", .within (.closed (.int 12) (.int 18))⟩]⟩]

private def order : Row where
  value column := if Name.fold column = "user_id" then .int 5 else .int 17
  value_congr same := by rw [show Name.fold _ = Name.fold _ from same]

theorem order_home_mem_nodesFor :
    order.Matches (orderStatement.conditionsOn "t_order") ∧
    orderTable.IsHome order ⟨"ds_1", "t_order_1"⟩ ∧
    ∃ route, orderRule.route orderStatement none = .ok route ∧
      ⟨"ds_1", "t_order_1"⟩ ∈ route.nodesFor "t_order" := by
  have wanted : order.Matches (orderStatement.conditionsOn "t_order") := by
    refine .inr ⟨_, List.mem_filter.mpr ⟨List.mem_cons_self, by decide +kernel⟩, ?_⟩
    refine List.forall_mem_cons.mpr ⟨?_, List.forall_mem_cons.mpr ⟨?_, List.forall_mem_nil _⟩⟩
    · exact (by decide +kernel : order.value "user_id" ∈ [Value.int 5, .int 7])
    · refine ⟨17, by decide +kernel, some 12, some 18, by decide +kernel, ?_, ?_⟩
      · intro first member
        cases member
        decide
      · intro last member
        cases member
        decide
  have home : orderTable.IsHome order ⟨"ds_1", "t_order_1"⟩ :=
    ⟨.standard (by decide +kernel), .standard (by decide +kernel)⟩
  have ruled : orderRule.table? "t_order" = some orderTable := by with_unfolding_all rfl
  have routed : orderRule.route orderStatement none =
      .ok ⟨[⟨"t_order", [⟨"ds_1", "t_order_1"⟩], .sharded⟩], false⟩ := by
    decide +kernel
  refine ⟨wanted, home, _, routed, ?_⟩
  exact Rule.home_mem_nodesFor ruled (by decide +kernel) (by decide +kernel)
    ⟨.inline _, .volume _⟩ (by decide +kernel) routed wanted home

end Sharding
