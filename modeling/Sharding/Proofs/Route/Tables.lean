import Sharding.Proofs.Route.Passes
import Sharding.Rule.Build

/-!
# Tables in routes

A route has one entry for each table of its statement, in the order in which the statement names
them first. No table is left over after the two passes, and the source of an entry says what the
rule knows of the table.
-/

set_option autoImplicit false

namespace Sharding

namespace Rule

variable {rule : Rule} {statement : Statement} {hint : Option Hint} {name : String}

/-- The source of a route without a hinted data source: broadcast tables, tables without a rule
and sharded tables are told apart. -/
structure Sourced (rule : Rule) (entry : TableRoute) : Prop where
  broadcast : entry.source = .broadcast ↔ rule.isBroadcast entry.table = true
  default : entry.source = .default ↔
    rule.isBroadcast entry.table = false ∧ rule.isSharded entry.table = false
  sharded : (entry.source = .sharded ∨ ∃ primary, entry.source = .binding primary) ↔
    rule.isBroadcast entry.table = false ∧ rule.isSharded entry.table = true

theorem Arrives.sourced {entry : TableRoute} (arrives : rule.Arrives statement hint name entry) :
    rule.Sourced entry := by
  cases arrives with
  | leads leads =>
      cases leads with
      | broadcast broadcast => constructor <;> simp [broadcast]
      | default notBroadcast unruled _ => constructor <;> simp [notBroadcast, isSharded, unruled]
      | sharded notBroadcast ruled _ _ _ => constructor <;> simp [notBroadcast, isSharded, ruled]
  | follows notBroadcast ruled _ _ _ _ _ => constructor <;> simp [notBroadcast, isSharded, ruled]

/-- A table that the first pass leaves open has a rule and a primary with a rule and a route. -/
def Completable (rule : Rule) (statement : Statement) (hint : Option Hint)
    (leading : List TableRoute) (name : String) : Prop :=
  (rule.table? name).isSome ∧ ∃ primary, rule.Follows statement hint name primary ∧
    (rule.table? primary).isSome ∧
    (leading.find? fun route => Name.Same route.table primary).isSome

theorem completable_of_routeLeading {slots : List (Option TableRoute)}
    (walked : statement.tableNames.mapM (rule.routeLeading statement hint) = .ok slots)
    (routed : rule.routeLeading statement hint name = .ok none) :
    rule.Completable statement hint (slots.filterMap id) name := by
  obtain ⟨_, ⟨table, ruled⟩, primary, follows⟩ := follows_of_routeLeading routed
  obtain ⟨key, _, member⟩ := groupKey?_isSome_of_primary? follows.1
  obtain ⟨named, _, sharded, _⟩ := mem_members_iff.mp member
  obtain ⟨entry, _, found⟩ := find?_leading walked named
    fun ⟨_, otherFollows⟩ => follows.primary_leads otherFollows
  refine ⟨by rw [ruled]; rfl, primary, follows, sharded, by rw [found]; rfl⟩

theorem map_table_of_route {route : Route} (routed : rule.route statement hint = .ok route) :
    route.tables.map (·.table) = statement.tableNames := by
  cases hinted : hint.bind (·.dataSource) with
  | none => exact map_table_of_arrives (arrives_of_route hinted routed)
  | some dataSource =>
      simp only [Rule.route, hinted, routeTo] at routed
      split at routed
      · cases routed
        rw [List.map_map]
        exact List.map_id' _
      · cases routed

theorem hinted_of_route {route : Route} {dataSource : String}
    (hinted : hint.bind (·.dataSource) = some dataSource)
    (routed : rule.route statement hint = .ok route) :
    ∀ entry ∈ route.tables, entry.source = .hinted := by
  simp only [Rule.route, hinted, routeTo] at routed
  split at routed
  · cases routed
    intro entry member
    obtain ⟨_, _, rfl⟩ := List.mem_map.mp member
    rfl
  · cases routed

end Rule

namespace Statement

/-- Tables that only conditions name come after the listed ones. -/
theorem exists_tableNames_eq (statement : Statement) :
    ∃ others, statement.tableNames = distinctNames statement.tables ++ others ∧
      ∀ name ∈ others, ∀ table ∈ statement.tables, ¬ Name.Same name table := by
  refine ⟨_, distinctNames_append _ _, fun name member => ?_⟩
  simpa using (List.mem_filter.mp member).2

/-- A condition applies to one table of its statement. -/
theorem existsUnique_appliesTo {statement : Statement} {condition : Condition}
    (member : condition ∈ statement.conditions) :
    ∃! name, name ∈ statement.tableNames ∧ condition.AppliesTo name := by
  have named : statement.Names condition.table :=
    ⟨_, List.mem_append_right _ (List.mem_map_of_mem member), Name.Same.refl _⟩
  obtain ⟨first, found, same⟩ := named.exists_tableName
  refine ⟨first, ⟨found, same.symm⟩, fun other ⟨otherFound, applies⟩ => ?_⟩
  exact eq_of_same otherFound found (applies.symm.trans same.symm)

end Statement

namespace Rule

variable {rule : Rule} {statement : Statement} {hint : Option Hint}

/-- Every table is routed once: the entries of a route are the tables of its statement as they are
spelled first, the listed ones before those that only conditions name, and every condition is on
one of them. The sources of the entries are those of a hinted data source or else those that the
rule asks for, and the second pass finds everything it needs for the tables that the first one
leaves open. -/
theorem tables_are_routed_once {route : Route} (routed : rule.route statement hint = .ok route) :
    route.tables.map (·.table) = statement.tableNames ∧
    FirstSpellings (statement.tables ++ statement.conditions.map (·.table)) statement.tableNames ∧
    (∃ others, statement.tableNames = distinctNames statement.tables ++ others ∧
      ∀ name ∈ others, ∀ table ∈ statement.tables, ¬ Name.Same name table) ∧
    (∀ condition ∈ statement.conditions,
      ∃! name, name ∈ statement.tableNames ∧ condition.AppliesTo name) ∧
    (∀ dataSource, hint.bind (·.dataSource) = some dataSource →
      ∀ entry ∈ route.tables, entry.source = .hinted) ∧
    (hint.bind (·.dataSource) = none →
      (∀ entry ∈ route.tables, rule.Sourced entry) ∧
      ∃ slots, statement.tableNames.mapM (rule.routeLeading statement hint) = .ok slots ∧
        ∀ name, (name, none) ∈ statement.tableNames.zip slots →
          rule.Completable statement hint (slots.filterMap id) name) := by
  refine ⟨map_table_of_route routed, distinctNames_firstSpellings _,
    statement.exists_tableNames_eq, fun _ => Statement.existsUnique_appliesTo,
    fun _ hinted => hinted_of_route hinted routed, fun free => ⟨fun entry member => ?_, ?_⟩⟩
  · obtain ⟨_, _, arrives⟩ := exists_left_of_mem (arrives_of_route free routed) member
    exact arrives.sourced
  · simp only [Rule.route, free, bind_eq_ok] at routed
    obtain ⟨slots, walked, _⟩ := routed
    refine ⟨slots, walked, fun name pending => ?_⟩
    exact completable_of_routeLeading walked (List.forall₂_zip (mapM_eq_ok_iff.mp walked) pending)

private def shopEntry (pattern : String) : TableEntry :=
  ⟨some pattern, none, some { standard := some ⟨some "order_id", "volume"⟩ }, none, none⟩

/-- A group of two tables, a broadcast table and a data source for all others. -/
private def shopFile : RuleFile where
  dataSources := ["ds_0", "ds_1"]
  defaultDataSource := some "ds_1"
  tables := .ofList [("t_item", shopEntry "ds_0.i_$\x7b0..2\x7d"),
    ("t_order", shopEntry "ds_0.o_$\x7b0..2\x7d")]
  bindingTables := ["t_order, t_item"]
  broadcastTables := ["t_country"]
  algorithms := .ofList
    [("volume", ⟨"VOLUME_RANGE", .ofList
      [("range-lower", "0"), ("range-upper", "20"), ("sharding-volume", "20")]⟩)]

/-- One table is listed twice, and two are named by conditions alone. -/
private def shopStatement : Statement where
  tables := ["t_item", "t_country", "t_item"]
  conditions := [⟨"t_log", []⟩, ⟨"t_order", [⟨"order_id", .equal (.int 12)⟩]⟩, ⟨"t_log", []⟩]

private def shopRoute : Route where
  tables :=
    [⟨"t_item", [⟨"ds_0", "i_1"⟩], .binding "t_order"⟩,
      ⟨"t_country", [⟨"ds_0", "t_country"⟩, ⟨"ds_1", "t_country"⟩], .broadcast⟩,
      ⟨"t_log", [⟨"ds_1", "t_log"⟩], .default⟩,
      ⟨"t_order", [⟨"ds_0", "o_1"⟩], .sharded⟩]

theorem shop_tables_are_routed_once :
    ∃ rule, build .builtin DataNode.expand shopFile = .ok rule ∧
      rule.route shopStatement none = .ok shopRoute ∧
      shopRoute.tables.map (·.table) = shopStatement.tableNames ∧
      FirstSpellings ["t_item", "t_country", "t_item", "t_log", "t_order", "t_log"]
        shopStatement.tableNames ∧
      ∀ entry ∈ shopRoute.tables, rule.Sourced entry := by
  have run : (build .builtin DataNode.expand shopFile >>= fun rule =>
      rule.route shopStatement none) = .ok shopRoute := by
    decide +kernel
  obtain ⟨rule, built, routed⟩ := bind_eq_ok.mp run
  have once := tables_are_routed_once routed
  exact ⟨rule, built, routed, once.1, once.2.1, (once.2.2.2.2.2 rfl).1⟩

end Rule

end Sharding
