import Sharding.Proofs.DataNode.Pattern
import Sharding.Proofs.Route.Binding

/-!
# Routes inside the rule

A route never leaves what its rule declares: its nodes lie on declared data sources, none occurs
twice, and those of a sharded table are nodes of the table.
-/

set_option autoImplicit false

namespace Sharding.Rule

variable {rule : Rule} {statement : Statement} {hint : Option Hint} {name : String}
  {entry : TableRoute}

/-- A rule declares some data sources, each once, and refers to no others. -/
structure Located (rule : Rule) : Prop where
  sourced : rule.dataSources ≠ []
  distinctSources : rule.dataSources.Nodup
  defaultDeclared : ∀ dataSource ∈ rule.defaultDataSource, dataSource ∈ rule.dataSources
  placed : ∀ name table, rule.table? name = some table → table.Placed rule.dataSources

theorem IsBuilt.located {catalog : Catalog} {file : RuleFile}
    (isBuilt : IsBuilt catalog DataNode.expand file rule) : rule.Located where
  sourced := by
    rw [isBuilt.dataSources]
    exact isBuilt.checked.sourced
  distinctSources := by
    rw [isBuilt.dataSources]
    exact isBuilt.checked.distinctSources
  defaultDeclared dataSource resolved := by
    rw [isBuilt.dataSources]
    rw [isBuilt.defaultDataSource] at resolved
    exact isBuilt.checked.resolvedDefault_mem resolved
  placed _ _ := isBuilt.placed fun _ _ expanded => (DataNode.expand_eq_ok expanded).2

/-- The nodes of a route are some, are distinct and lie on declared data sources. Those that
follow from the rule of the table are nodes of the table, and those that its strategies select
come data source by data source. -/
structure Inside (rule : Rule) (entry : TableRoute) : Prop where
  filled : entry.nodes ≠ []
  distinct : entry.nodes.Nodup
  declared : ∀ node ∈ entry.nodes, node.dataSource ∈ rule.dataSources
  sharded : entry.source = .sharded → ∃ table, rule.table? entry.table = some table ∧
    (∀ node ∈ entry.nodes, node ∈ table.nodes) ∧ entry.nodes.Sublist table.nodesBySource
  binding : ∀ primary, entry.source = .binding primary →
    ∃ table, rule.table? entry.table = some table ∧ ∀ node ∈ entry.nodes, node ∈ table.nodes

namespace Located

theorem inside_singleton {dataSource table : String} {source : RouteSource}
    (declared : dataSource ∈ rule.dataSources) (notSharded : source ≠ .sharded)
    (notBinding : ∀ primary, source ≠ .binding primary) :
    rule.Inside ⟨name, [⟨dataSource, table⟩], source⟩ where
  filled := List.cons_ne_nil _ _
  distinct := List.nodup_singleton _
  declared node member := by
    cases List.mem_singleton.mp member
    exact declared
  sharded same := absurd same notSharded
  binding primary same := absurd same (notBinding primary)

theorem inside_broadcast (located : rule.Located) :
    rule.Inside ⟨name, rule.broadcastNodes name, .broadcast⟩ := by
  unfold broadcastNodes
  cases ruled : rule.table? name with
  | some table =>
      have placed := located.placed name table ruled
      exact ⟨placed.filled, placed.distinct, placed.declared, nofun, nofun⟩
  | none =>
      refine ⟨?_, ?_, ?_, nofun, nofun⟩
      · exact fun empty => located.sourced (List.map_eq_nil_iff.mp empty)
      · exact located.distinctSources.map fun _ _ same => congrArg DataNode.dataSource same
      · intro node member
        obtain ⟨dataSource, declared, rfl⟩ := List.mem_map.mp member
        exact declared

theorem inside_sharded {table : TableRule} {conditions : List Condition} {nodes : List DataNode}
    (located : rule.Located) (ruled : rule.table? name = some table)
    (selected : table.select conditions hint = .ok nodes) :
    rule.Inside ⟨name, nodes, .sharded⟩ := by
  have placed := located.placed name table ruled
  have within := TableRule.select_sublist selected
  have own : ∀ node ∈ nodes, node ∈ table.nodes := by
    intro node member
    exact TableRule.mem_nodes_of_mem_nodesBySource (within.subset member)
  exact {
    filled := (TableRule.select_eq_ok selected).1
    distinct := (TableRule.nodup_nodesBySource placed.distinct).sublist within
    declared := fun node member => placed.declared node (own node member)
    sharded := fun _ => ⟨table, ruled, own, within⟩
    binding := nofun }

theorem inside_leads (located : rule.Located) (leads : rule.Leads statement hint name entry) :
    rule.Inside entry := by
  cases leads with
  | broadcast => exact located.inside_broadcast
  | default _ _ declared =>
      exact inside_singleton (located.defaultDeclared _ declared) nofun nofun
  | sharded _ ruled _ _ selected => exact located.inside_sharded ruled selected

/-- A table that follows a route inside the rule stays inside as well, since no two nodes of the
route correspond to one node of the table. -/
theorem inside_binding {primary : String} {table leaderTable : TableRule}
    {leading nodes : List DataNode} (located : rule.Located)
    (ruled : rule.table? name = some table)
    (leader : rule.Inside ⟨primary, leading, .sharded⟩)
    (followed : table.follow leaderTable leading = .ok nodes) :
    rule.Inside ⟨name, nodes, .binding primary⟩ := by
  have placed := located.placed name table ruled
  have paired := (TableRule.follow_eq_ok_iff.mp followed).imp
    fun _ _ => TableRule.corresponds_of_follow?
  have own : ∀ node ∈ nodes, node ∈ table.nodes := by
    intro node member
    obtain ⟨_, _, corresponds⟩ := exists_left_of_mem paired member
    exact corresponds.mem_nodes
  exact {
    filled := by
      have filled : leading ≠ [] := leader.filled
      rw [← List.length_pos_iff] at filled ⊢
      rw [← paired.length_eq]
      exact filled
    distinct := nodup_right_of_forall₂ paired leader.distinct
      fun _ _ _ => TableRule.Corresponds.injective placed.distinct
    declared := fun node member => placed.declared node (own node member)
    sharded := nofun
    binding := fun _ _ => ⟨table, ruled, own⟩ }

theorem inside_arrives (located : rule.Located) (arrives : rule.Arrives statement hint name entry) :
    rule.Inside entry := by
  cases arrives with
  | leads leads => exact located.inside_leads leads
  | follows _ ruled _ _ leads _ followed =>
      exact located.inside_binding ruled (located.inside_leads leads) followed

theorem inside_routeTo {tables : List String} {dataSource : String} {writeOnly : Bool}
    {route : Route} (routed : rule.routeTo tables dataSource writeOnly = .ok route) :
    ∀ entry ∈ route.tables, rule.Inside entry := by
  unfold routeTo at routed
  split at routed
  next declared =>
    cases routed
    intro entry member
    obtain ⟨table, _, rfl⟩ := List.mem_map.mp member
    exact inside_singleton declared nofun nofun
  next => cases routed

end Located

/-- Routes stay inside the rule, whatever the statement and the hint say. -/
theorem routes_stay_inside {catalog : Catalog} {file : RuleFile} {route : Route}
    (built : build catalog DataNode.expand file = .ok rule)
    (routed : rule.route statement hint = .ok route) :
    ∀ entry ∈ route.tables, rule.Inside entry := by
  have located := (isBuilt_of_build built).located
  cases given : hint.bind (·.dataSource) with
  | some dataSource =>
      simp only [Rule.route, given] at routed
      exact Located.inside_routeTo routed
  | none =>
      intro entry member
      obtain ⟨_, _, arrives⟩ := exists_left_of_mem (arrives_of_route given routed) member
      exact located.inside_arrives arrives

private def logFile : RuleFile where
  dataSources := ["ds_0", "ds_1"]
  defaultDataSource := some "ds_1"
  autoTables := .ofList
    [("t_log", ⟨some "ds_1, ds_0", { standard := some ⟨some "id", "volume"⟩ }, none, none⟩)]
  broadcastTables := ["t_dict"]
  algorithms := .ofList
    [("volume", ⟨"VOLUME_RANGE", .ofList
      [("range-lower", "0"), ("range-upper", "20"), ("sharding-volume", "10")]⟩)]

private def logStatement : Statement where
  tables := ["t_log", "t_dict", "t_user"]
  conditions := [⟨"t_log", [⟨"id", .within (.atMost (.int 15))⟩]⟩]

/-- Of the three tables with keys up to 15 two lie on the data source that is listed first. -/
private def logRoute : Route where
  tables :=
    [⟨"t_log", [⟨"ds_1", "t_log_0"⟩, ⟨"ds_1", "t_log_2"⟩, ⟨"ds_0", "t_log_1"⟩], .sharded⟩,
      ⟨"t_dict", [⟨"ds_0", "t_dict"⟩, ⟨"ds_1", "t_dict"⟩], .broadcast⟩,
      ⟨"t_user", [⟨"ds_1", "t_user"⟩], .default⟩]

theorem log_routes_stay_inside :
    ∃ rule, build .builtin DataNode.expand logFile = .ok rule ∧
      rule.route logStatement none = .ok logRoute ∧
      ∀ entry ∈ logRoute.tables, rule.Inside entry := by
  have run : (build .builtin DataNode.expand logFile >>= fun rule =>
      rule.route logStatement none) = .ok logRoute := by
    decide +kernel
  obtain ⟨rule, built, routed⟩ := bind_eq_ok.mp run
  exact ⟨rule, built, routed, routes_stay_inside built routed⟩

end Sharding.Rule
