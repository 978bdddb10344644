import Sharding.Proofs.Route.Audit
import Sharding.Proofs.Rule.AutoTables

/-!
# Routes of auto tables

The actual tables of an auto table are laid out by number over its data sources and searched by
number on each data source again. Both agree: a value that can be read leads to the one table
with its number, and a range to the tables with the numbers from its lower to its upper end.
-/

set_option autoImplicit false

namespace Sharding

/-! ## Statements -/

/-- A statement has a single table with a single condition, and that is a predicate on a column. -/
structure Statement.Asks (statement : Statement) (name column : String) (predicate : Predicate) :
    Prop where
  alone : statement.tableNames = [name]
  single : ∃ table spelling, statement.conditions = [⟨table, [⟨spelling, predicate⟩]⟩] ∧
    Name.Same table name ∧ Name.Same spelling column

theorem Statement.Asks.conditionsOn_eq {statement : Statement} {name column : String}
    {predicate : Predicate} (asks : statement.Asks name column predicate) :
    ∃ condition, statement.conditionsOn name = [condition] ∧
      condition.predicate? column = some predicate ∧
      ∃ entry ∈ condition.columns, Name.Same column entry.column := by
  obtain ⟨table, spelling, only, sameTable, sameColumn⟩ := asks.single
  refine ⟨⟨table, [⟨spelling, predicate⟩]⟩, ?_, ?_, ⟨spelling, predicate⟩,
    List.mem_singleton_self _, sameColumn.symm⟩
  · rw [Statement.conditionsOn, only]
    exact List.filter_cons_of_pos (decide_eq_true sameTable)
  · simp [Condition.predicate?, sameColumn]

/-! ## Selections -/

section

variable {condition : Condition} {predicate : Predicate} {column : String}

namespace TableRule

variable {table : TableRule} {logicTable : String} {dataSources : List String}
  {numbering : Numbering} {first last : Nat} {node : DataNode}

/-- The tables on a data source that are found by the numbers from the first to the last. -/
def foundOn (table : TableRule) (first last : Nat) (dataSource : String) : List DataNode :=
  (retain (table.actualTables dataSource)
    (Suffix.findAll (table.actualTables dataSource) first last)).map fun name => ⟨dataSource, name⟩

namespace LaidOut

theorem mem_nodes_iff (laidOut : table.LaidOut logicTable dataSources column numbering.placement) :
    node ∈ table.nodes ↔
      ∃ number < numbering.count, node = numberedNode logicTable dataSources number := by
  obtain ⟨count, counts, nodes⟩ := laidOut.nodes
  rw [numbering.tableCount_eq, Option.some.injEq] at counts
  rw [nodes, mem_layout_iff laidOut.sourced, counts]

theorem numbered_actualTables
    (laidOut : table.LaidOut logicTable dataSources column numbering.placement)
    (dataSource : String) : Suffix.Numbered logicTable (table.actualTables dataSource) := by
  intro name member
  obtain ⟨number, less, same⟩ := laidOut.mem_nodes_iff.mp (mem_actualTables_iff.mp member)
  have fits := numbering.count_le
  refine ⟨number, ?_, congrArg DataNode.table same⟩
  unfold Suffix.greatest
  omega

theorem mem_foundOn_iff (laidOut : table.LaidOut logicTable dataSources column numbering.placement)
    {dataSource : String} :
    node ∈ table.foundOn first last dataSource ↔
      node.dataSource = dataSource ∧ node ∈ table.nodes ∧
        ∃ number, first ≤ number ∧ number ≤ last ∧
          node.table = Suffix.numbered logicTable number := by
  simp only [foundOn, List.mem_map,
    Suffix.mem_retain_findAll_iff (laidOut.numbered_actualTables dataSource), mem_actualTables_iff]
  constructor
  · rintro ⟨name, ⟨member, wanted⟩, rfl⟩
    exact ⟨rfl, member, wanted⟩
  · rintro ⟨rfl, member, wanted⟩
    exact ⟨node.table, ⟨member, wanted⟩, rfl⟩

/-- Every number from the first to the last is found, and on one data source only. -/
theorem mem_found_iff (laidOut : table.LaidOut logicTable dataSources column numbering.placement)
    (inside : last < numbering.count) :
    node ∈ (table.dataSources.map (table.foundOn first last)).flatten ↔
      ∃ number, first ≤ number ∧ number ≤ last ∧
        node = numberedNode logicTable dataSources number := by
  rw [← List.flatMap_def, List.mem_flatMap]
  simp only [laidOut.mem_foundOn_iff]
  constructor
  · rintro ⟨_, _, rfl, member, number, above, below, named⟩
    obtain ⟨own, _, rfl⟩ := laidOut.mem_nodes_iff.mp member
    cases Suffix.numbered_injective named
    exact ⟨_, above, below, rfl⟩
  · rintro ⟨number, above, below, rfl⟩
    have member := laidOut.mem_nodes_iff.mpr ⟨number, by omega, rfl⟩
    exact ⟨_, mem_dataSources_of_mem member, rfl, member, number, above, below, rfl⟩

theorem select_eq_ok (laidOut : table.LaidOut logicTable dataSources column numbering.placement)
    (asked : condition.predicate? column = some predicate)
    (chosen : ∀ candidates, numbering.placement.select candidates column predicate =
      .ok (Suffix.findAll candidates first last))
    (upright : first ≤ last) (inside : last < numbering.count) :
    ∃ nodes, table.select [condition] none = .ok nodes ∧ nodes.Nodup ∧
      ∀ node, node ∈ nodes ↔ ∃ number, first ≤ number ∧ number ≤ last ∧
        node = numberedNode logicTable dataSources number := by
  obtain ⟨algorithm, strategy⟩ := laidOut.strategy
  have each : ∀ dataSource, table.selectOn (.conditions [condition]) dataSource =
      .ok (table.foundOn first last dataSource) := by
    intro dataSource
    rw [selectOn, strategy, Strategy.select_eq_retain asked (chosen _)]
    rfl
  have walked : table.dataSources.mapM (table.selectOn (.conditions [condition])) =
      .ok (table.dataSources.map (table.foundOn first last)) :=
    mapM_eq_ok_iff.mpr (List.forall₂_map_right_iff.mpr (List.forall₂_same.mpr fun _ _ => each _))
  have filled : ¬ (table.dataSources.map (table.foundOn first last)).flatten.isEmpty = true := by
    rw [List.isEmpty_iff]
    exact List.ne_nil_of_mem
      ((laidOut.mem_found_iff inside).mpr ⟨first, Nat.le_refl first, upright, rfl⟩)
  have selected : table.select [condition] none =
      .ok (table.dataSources.map (table.foundOn first last)).flatten := by
    unfold select
    rw [laidOut.unsharded]
    change (table.dataSources.mapM (table.selectOn (.conditions [condition])) >>= _) = _
    rw [walked]
    exact if_neg filled
  obtain ⟨count, _, nodes⟩ := laidOut.nodes
  have distinct : table.nodes.Nodup := nodes ▸ nodup_layout _ _ _
  exact ⟨_, selected, (nodup_nodesBySource distinct).sublist (select_sublist selected),
    fun node => laidOut.mem_found_iff inside⟩

end LaidOut

end TableRule

end

/-! ## Routes -/

namespace Rule

variable {rule : Rule} {statement : Statement} {name : String} {table : TableRule}

section

variable {logicTable column : String} {dataSources : List String} {numbering : Numbering}
  {predicate : Predicate} {first last : Nat}

theorem route_of_asks (asks : statement.Asks name column predicate)
    (notBroadcast : rule.isBroadcast name = false) (ruled : rule.table? name = some table)
    (laidOut : table.LaidOut logicTable dataSources column numbering.placement)
    (chosen : ∀ candidates, numbering.placement.select candidates column predicate =
      .ok (Suffix.findAll candidates first last))
    (upright : first ≤ last) (inside : last < numbering.count) :
    ∃ nodes, nodes.Nodup ∧
      (∀ node, node ∈ nodes ↔ ∃ number, first ≤ number ∧ number ≤ last ∧
        node = TableRule.numberedNode logicTable dataSources number) ∧
      rule.route statement none = (do
        rule.audit table true false
        return { tables := [⟨name, nodes, .sharded⟩] }) := by
  obtain ⟨condition, only, asked, entry, member, same⟩ := asks.conditionsOn_eq
  obtain ⟨nodes, selected, distinct, found⟩ := laidOut.select_eq_ok asked chosen upright inside
  refine ⟨nodes, distinct, found, ?_⟩
  obtain ⟨algorithm, strategy⟩ := laidOut.strategy
  have shards : column ∈ table.shardingColumns := by
    rw [TableRule.shardingColumns, strategy]
    exact List.mem_append_right _ (List.mem_singleton_self column)
  have conditioned : table.Conditioned [condition] :=
    ⟨condition, List.mem_singleton_self _, entry, member, column, shards, same⟩
  have notHinted : ¬ IsHinted none name := nofun
  rw [route_of_single rfl asks.alone notBroadcast ruled, routeSharded, only, selected,
    decide_eq_true conditioned, decide_eq_false notHinted]
  cases rule.audit table true false <;> rfl

/-- Values and ranges in a statement about one table lead to the nodes with their numbers. The audit
of the table has its say before, as on every table with a sharding condition. -/
structure RoutesByNumber (rule : Rule) (name column : String) (table : TableRule)
    (nodeOf : Nat → DataNode) (numbering : Numbering) : Prop where
  equal : ∀ (statement : Statement) (value : Value) (number : Nat),
    statement.Asks name column (.equal value) → numbering.number? value = some number →
    rule.route statement none = (do
      rule.audit table true false
      return { tables := [⟨name, [nodeOf number], .sharded⟩] })
  within : ∀ v, numbering = .volume v →
    ∀ (statement : Statement) (range : ValueRange) (lower upper : Option Int64),
    statement.Asks name column (.within range) → range.integerBounds? = some (lower, upper) →
    (∀ low ∈ lower, ∀ high ∈ upper, low ≤ high) →
    ∃ nodes, nodes.Nodup ∧
      (∀ node, node ∈ nodes ↔ ∃ number, v.firstPartition lower ≤ number ∧
        number ≤ v.lastPartition upper ∧ node = nodeOf number) ∧
      rule.route statement none = (do
        rule.audit table true false
        return { tables := [⟨name, nodes, .sharded⟩] })

theorem routesByNumber_of_laidOut (notBroadcast : rule.isBroadcast name = false)
    (ruled : rule.table? name = some table)
    (laidOut : table.LaidOut logicTable dataSources column numbering.placement) :
    rule.RoutesByNumber name column table (TableRule.numberedNode logicTable dataSources)
      numbering where
  equal statement value number asks read := by
    obtain ⟨nodes, distinct, found, routed⟩ := route_of_asks asks notBroadcast ruled laidOut
      (fun _ => Numbering.select_equal read) (Nat.le_refl number) (Numbering.number?_lt read)
    have only : nodes.Perm [TableRule.numberedNode logicTable dataSources number] := by
      refine (List.perm_ext_iff_of_nodup distinct (List.nodup_singleton _)).mpr fun node => ?_
      rw [found, List.mem_singleton]
      constructor
      · rintro ⟨other, above, below, rfl⟩
        rw [Nat.le_antisymm below above]
      · exact fun own => ⟨number, Nat.le_refl number, Nat.le_refl number, own⟩
    rw [routed, List.perm_singleton.mp only]
  within v isVolume statement range lower upper asks bounds upright := by
    subst isVolume
    exact route_of_asks asks notBroadcast ruled laidOut
      (fun _ => Volume.select_within bounds upright) (Volume.firstPartition_le upright)
      (Nat.lt_succ_of_le (v.lastPartition_le upper))

end

section

variable {catalog : Catalog} {expand : String → Except Error (List DataNode)} {file : RuleFile}
  {entry : AutoTableEntry} {logicTable : String}

/-- Every auto table of a built rule is routed by number over its data sources. With the placements
of this library there is no other way to lay out an auto table, and the auditors of this library
do not object to a statement with a sharding condition. -/
theorem auto_tables_are_exact (built : build catalog expand file = .ok rule)
    (listed : (logicTable, entry) ∈ file.autoTables.entries) (same : Name.Same name logicTable) :
    ∃ table column algorithm placement, rule.table? name = some table ∧
      table.tableStrategy = .standard column algorithm placement ∧
      entry.sources file ≠ [] ∧
      (catalog.placements = Catalog.builtin.placements →
        ∃ numbering : Numbering, placement = numbering.placement) ∧
      (catalog.auditors = Catalog.builtin.auditors → rule.audit table true false = .ok ()) ∧
      ∀ numbering : Numbering, placement = numbering.placement →
        rule.RoutesByNumber name column table
          (TableRule.numberedNode logicTable (entry.sources file)) numbering := by
  have isBuilt := isBuilt_of_build built
  obtain ⟨table, ruled, own⟩ := isBuilt.exists_autoTable listed
  have notBroadcast := isBuilt.autoTable_notBroadcast listed
  rw [← table?_congr same] at ruled
  rw [← isBroadcast_congr same] at notBroadcast
  obtain ⟨column, placement, laidOut, _, found⟩ := laidOut_of_autoTableRule own
  obtain ⟨algorithm, strategy⟩ := laidOut.strategy
  obtain ⟨count, counts, _⟩ := laidOut.nodes
  refine ⟨table, column, algorithm, placement, ruled, strategy, laidOut.sourced, ?_, ?_, ?_⟩
  · exact fun registered => isBuilt.exists_numbering registered found counts
  · intro registered
    exact (audit_eq_ok_iff_forced (isBuilt.auditors_found registered ruled)).mpr fun _ => .inl rfl
  · rintro numbering rfl
    exact routesByNumber_of_laidOut notBroadcast ruled laidOut

end

private def numberEntry : AutoTableEntry :=
  ⟨some "ds_1, ds_0, ds_1", { standard := some ⟨some "id", "volume"⟩ }, none, none⟩

/-- An auto table with a name that ends in a number, on one data source twice. -/
private def numberFile : RuleFile where
  dataSources := ["ds_0", "ds_1"]
  autoTables := .ofList [("t_log_7", numberEntry)]
  algorithms := .ofList
    [("volume", ⟨"VOLUME_RANGE", .ofList
      [("range-lower", "0"), ("range-upper", "20"), ("sharding-volume", "10")]⟩)]

private def numberStatement : Statement where
  conditions := [⟨"t_log_7", [⟨"id", .equal (.int 15)⟩]⟩]

theorem log_7_is_exact :
    ∃ rule v, build .builtin DataNode.expand numberFile = .ok rule ∧
      rule.route numberStatement none = .ok
        { tables := [⟨"t_log_7", [TableRule.numberedNode "t_log_7"
          (numberEntry.sources numberFile) (Volume.partitionOf v 15)], .sharded⟩] } ∧
      TableRule.numberedNode "t_log_7" (numberEntry.sources numberFile) (v.partitionOf 15) =
        ⟨"ds_1", "t_log_7_2"⟩ := by
  have run : (build .builtin DataNode.expand numberFile >>= fun rule => pure (decide
      ((∃ table ∈ rule.table? "t_log_7", ∃ placement ∈ table.tableStrategy.standard?,
          placement.type = Volume.type ∧ table.tableStrategy.columns = ["id"]) ∧
        rule.route numberStatement none = .ok
          { tables := [⟨"t_log_7", [⟨"ds_1", "t_log_7_2"⟩], .sharded⟩] }))) = .ok true := by
    decide +kernel
  obtain ⟨rule, built, ⟨table, ruled, _, standard, isVolume, columns⟩, routed⟩ :=
    exists_of_decided run
  have listed : ("t_log_7", numberEntry) ∈ numberFile.autoTables.entries := by decide +kernel
  obtain ⟨_, column, _, placement, found, strategy, _, numbered, silent, routes⟩ :=
    auto_tables_are_exact built listed (Name.Same.refl "t_log_7")
  rw [ruled] at found
  cases found
  rw [strategy] at standard columns
  cases standard
  cases columns
  have asks : numberStatement.Asks "t_log_7" "id" (.equal (.int 15)) :=
    ⟨by decide +kernel, "t_log_7", "id", rfl, rfl, rfl⟩
  obtain ⟨numbering, rfl⟩ := numbered rfl
  cases numbering with
  | interval i =>
      change Interval.type = Volume.type at isVolume
      exact absurd isVolume (by decide)
  | volume v =>
      have led := (routes (.volume v) rfl).equal numberStatement (.int 15) _ asks rfl
      rw [silent rfl] at led
      refine ⟨rule, v, built, led, ?_⟩
      rw [routed] at led
      have sameEntry := List.singleton_inj.mp (Route.mk.inj (Except.ok.inj led)).1
      exact (List.singleton_inj.mp (TableRoute.mk.inj sameEntry).2.1).symm

end Rule

end Sharding
