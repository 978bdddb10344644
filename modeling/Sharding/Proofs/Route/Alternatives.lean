import Sharding.Proofs.Route.Audit
import Sharding.Proofs.Route.Coverage

/-!
# Open alternatives

The conditions on a table are alternatives, and one that says nothing about the sharding columns
leaves the choice of nodes open. A forced audit asks for one alternative that does say something.
It does not ask all of them, so the nodes may be all nodes of the table nevertheless.
-/

set_option autoImplicit false

namespace Sharding

variable {conditions : List Condition} {condition : Condition}

namespace Strategy

variable {strategy : Strategy} {candidates chosen : List String}

theorem selectBy_ne_some {select : Condition → Except Error (Option (List String))}
    (member : condition ∈ conditions) (opens : select condition = .ok none) (names : List String) :
    selectBy select conditions ≠ .ok (some names) := by
  cases conditions with
  | nil => cases member
  | cons first rest =>
      intro selected
      obtain ⟨_, own, _⟩ := selectAny_eq_some selected condition member
      rw [opens] at own
      cases own

theorem selectColumns_eq_none {columns : List String} {placement : ComplexPlacement}
    (silent : ∀ column ∈ columns, condition.predicate? column = none) :
    selectColumns columns placement candidates condition = .ok none := by
  have nothing : condition.predicates columns = .ofList [] := by
    rw [Condition.predicates, List.filterMap_eq_nil_iff.mpr]
    intro column listed
    rw [silent column listed, Option.map_none]
  rw [selectColumns, nothing]
  rfl

/-- An alternative without a predicate on the sharding columns keeps every candidate. -/
theorem select_eq_of_silent {table : String} (member : condition ∈ conditions)
    (silent : ∀ column ∈ strategy.columns, condition.predicate? column = none)
    (selected : strategy.select table candidates (.conditions conditions) = .ok chosen) :
    chosen = candidates := by
  rcases select_eq_ok selected with ⟨_, kept⟩ | ⟨names, named, _⟩
  · exact kept
  · refine absurd named ?_
    cases strategy with
    | unsharded => exact nofun
    | hint algorithm placement => exact nofun
    | standard column algorithm placement =>
        refine selectBy_ne_some member ?_ names
        rw [selectColumn, silent column (List.mem_singleton_self column)]
    | complex columns algorithm placement =>
        exact selectBy_ne_some member (selectColumns_eq_none silent) names

end Strategy

namespace TableRule

variable {table : TableRule}

/-- A condition says something about a sharding column of the table. -/
def Narrows (table : TableRule) (condition : Condition) : Prop :=
  ∃ entry ∈ condition.columns, table.ShardsBy entry.column

instance (table : TableRule) (condition : Condition) : Decidable (table.Narrows condition) :=
  inferInstanceAs (Decidable (∃ entry ∈ condition.columns, table.ShardsBy entry.column))

theorem predicate?_eq_none (opens : ¬ table.Narrows condition) :
    ∀ column ∈ table.shardingColumns, condition.predicate? column = none := by
  intro column shards
  refine Option.map_eq_none_iff.mpr (List.find?_eq_none.mpr fun entry member same => opens ?_)
  exact ⟨entry, member, column, shards, (of_decide_eq_true same).symm⟩

theorem selectOn_eq_of_open {dataSource : String} {nodes : List DataNode}
    (member : condition ∈ conditions) (opens : ¬ table.Narrows condition)
    (selected : table.selectOn (.conditions conditions) dataSource = .ok nodes) :
    table.nodesOn dataSource = nodes := by
  obtain ⟨names, chosen, rfl⟩ := selectOn_eq_ok selected
  rw [Strategy.select_eq_of_silent member _ chosen, map_actualTables]
  exact fun column own => predicate?_eq_none opens column (List.mem_append_right _ own)

/-- Without a hint, an alternative that leaves the choice open selects all nodes. -/
theorem select_eq_of_open {nodes : List DataNode} (member : condition ∈ conditions)
    (opens : ¬ table.Narrows condition) (selected : table.select conditions none = .ok nodes) :
    nodes = table.nodesBySource := by
  obtain ⟨_, dataSources, groups, sourcesSelected, walked, rfl⟩ := select_eq_ok selected
  have all : dataSources = table.dataSources :=
    Strategy.select_eq_of_silent member
      (fun column own => predicate?_eq_none opens column (List.mem_append_left _ own))
      sourcesSelected
  have each := walked.imp fun _ _ => selectOn_eq_of_open member opens
  rw [← List.forall₂_map_left_iff, List.forall₂_eq_eq_eq] at each
  rw [← each, all]
  rfl

end TableRule

namespace Rule

variable {rule : Rule} {statement : Statement} {name : String} {table : TableRule}

/-- The audit of a table is forced and done by the auditor of sharding conditions. -/
def AsksForConditions (rule : Rule) (table : TableRule) : Prop :=
  ∃ entry ∈ table.audit, entry.force = true ∧ ∃ auditor ∈ entry.auditors,
    rule.auditors.get? auditor = some Auditor.shardingConditions

/-- Where a forced audit asks for sharding conditions, one alternative with a sharding condition is
enough for a table that stands alone. Another alternative without one is let pass, and then the
table is routed to all of its nodes. -/
theorem audit_asks_some_alternative {route : Route} (ruled : rule.table? name = some table)
    (notBroadcast : rule.isBroadcast name = false) (alone : rule.group? name = none)
    (asks : rule.AsksForConditions table) (named : statement.Names name)
    (routed : rule.route statement none = .ok route) :
    (∃ condition ∈ statement.conditionsOn name, table.Narrows condition) ∧
    ((∃ condition ∈ statement.conditionsOn name, ¬ table.Narrows condition) →
      route.nodesFor name = table.nodesBySource) := by
  obtain ⟨first, entry, same, arrives, found⟩ :=
    exists_table?_of_arrives (arrives_of_route rfl routed) named
  rw [← table?_congr same] at ruled
  rw [← isBroadcast_congr same] at notBroadcast
  rw [← group?_congr same] at alone
  obtain ⟨audited, nodes, selected, rfl⟩ := arrives.sharded_of_alone ruled notBroadcast alone
  rw [← Statement.conditionsOn_congr same]
  constructor
  · obtain ⟨entry, given, force, auditor, listed, known⟩ := asks
    have verdict := (audit_eq_ok_iff.mp audited entry given force).2 auditor listed
    rcases (auditBy_eq_ok_iff known).mp verdict with conditioned | hinted
    · exact of_decide_eq_true conditioned
    · obtain ⟨_, given, _⟩ := of_decide_eq_true hinted
      cases given
  · rintro ⟨condition, member, opens⟩
    rw [Route.nodesFor, Route.table?, found]
    exact TableRule.select_eq_of_open member opens selected

private def orderFile : RuleFile where
  dataSources := ["ds"]
  tables := .ofList
    [("t_order", ⟨some "ds.o_$\x7b0..2\x7d", none,
      some { standard := some ⟨some "order_id", "volume"⟩ }, none, some ⟨["need_key"], true⟩⟩)]
  algorithms := .ofList
    [("volume", ⟨"VOLUME_RANGE", .ofList
      [("range-lower", "0"), ("range-upper", "20"), ("sharding-volume", "20")]⟩)]
  auditors := .ofList [("need_key", ⟨"DML_SHARDING_CONDITIONS", .empty⟩)]

private def newOrders : Condition :=
  ⟨"t_order", [⟨"status", .equal (.text "NEW")⟩]⟩

/-- An order by its number, or all new ones. -/
private def orderStatement : Statement where
  conditions := [⟨"t_order", [⟨"order_id", .equal (.int 12)⟩]⟩, newOrders]

private def orderRoute : Route where
  tables := [⟨"t_order", [⟨"ds", "o_0"⟩, ⟨"ds", "o_1"⟩, ⟨"ds", "o_2"⟩], .sharded⟩]

private theorem order_setting :
    ∃ rule table, build .builtin DataNode.expand orderFile = .ok rule ∧
      rule.table? "t_order" = some table ∧ rule.isBroadcast "t_order" = false ∧
      rule.group? "t_order" = none ∧ rule.AsksForConditions table ∧
      ¬ table.Narrows newOrders ∧ rule.route orderStatement none = .ok orderRoute := by
  have run : (build .builtin DataNode.expand orderFile >>= fun rule => pure (decide
      ((∃ table ∈ rule.table? "t_order",
          table.audit = some ⟨["need_key"], true⟩ ∧ ¬ table.Narrows newOrders) ∧
        rule.isBroadcast "t_order" = false ∧ rule.group? "t_order" = none ∧
        (rule.auditors.get? "need_key").isSome ∧
        rule.route orderStatement none = .ok orderRoute))) = .ok true := by
    decide +kernel
  obtain ⟨rule, built, ⟨table, ruled, audit, opens⟩, notBroadcast, alone, known, routed⟩ :=
    exists_of_decided run
  obtain ⟨auditor, found⟩ := Option.isSome_iff_exists.mp known
  cases (isBuilt_of_build built).auditor_builtin rfl found
  have asks : rule.AsksForConditions table :=
    ⟨_, audit, rfl, "need_key", List.mem_singleton_self _, found⟩
  exact ⟨rule, table, built, ruled, notBroadcast, alone, asks, opens, routed⟩

/-- The second alternative is no sharding condition, and the audit passes all the same. -/
theorem open_alternative_passes :
    ∃ rule table, build .builtin DataNode.expand orderFile = .ok rule ∧
      rule.table? "t_order" = some table ∧ rule.isBroadcast "t_order" = false ∧
      rule.group? "t_order" = none ∧ rule.AsksForConditions table ∧
      rule.route orderStatement none = .ok orderRoute ∧
      ∃ condition ∈ orderStatement.conditionsOn "t_order", ¬ table.Narrows condition := by
  obtain ⟨rule, table, built, ruled, notBroadcast, alone, asks, opens, routed⟩ := order_setting
  exact ⟨rule, table, built, ruled, notBroadcast, alone, asks, routed, newOrders,
    by decide +kernel, opens⟩

theorem order_audit_asks_some_alternative :
    ∃ rule table, build .builtin DataNode.expand orderFile = .ok rule ∧
      rule.table? "t_order" = some table ∧ rule.AsksForConditions table ∧
      rule.route orderStatement none = .ok orderRoute ∧
      (∃ condition ∈ orderStatement.conditionsOn "t_order", table.Narrows condition) ∧
      orderRoute.nodesFor "t_order" = table.nodesBySource := by
  obtain ⟨rule, table, built, ruled, notBroadcast, alone, asks, opens, routed⟩ := order_setting
  have asked := audit_asks_some_alternative ruled notBroadcast alone asks (by decide +kernel) routed
  exact ⟨rule, table, built, ruled, asks, routed, asked.1,
    asked.2 ⟨newOrders, by decide +kernel, opens⟩⟩

end Rule

end Sharding
