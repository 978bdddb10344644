import Sharding.Proofs.Catalog
import Sharding.Proofs.Placement.Numbering

/-!
# Auto tables of built rules

The actual tables of an auto table are numbered, as many as its placement asks for, and its data
sources take turns.
-/

set_option autoImplicit false

namespace Sharding

/-- The data sources of an auto table: those that are listed, or else all. -/
def AutoTableEntry.sources (entry : AutoTableEntry) (file : RuleFile) : List String :=
  (entry.dataSources.map Text.items).getD file.dataSources

namespace TableRule

/-- The actual table with a number. The data sources take turns, so its data source is the one at
the place that is left of the number after as many rounds as possible. -/
def numberedNode (logicTable : String) (dataSources : List String) (number : Nat) : DataNode :=
  ⟨dataSources.getD (number % dataSources.length) "", Suffix.numbered logicTable number⟩

variable {logicTable : String} {dataSources : List String} {count : Nat}

theorem layout_eq (filled : dataSources ≠ []) :
    layout logicTable dataSources count =
      (List.range count).map (numberedNode logicTable dataSources) := by
  rw [← List.filterMap_eq_map]
  refine List.filterMap_congr fun number _ => ?_
  have inside : number % dataSources.length < dataSources.length :=
    Nat.mod_lt _ (List.length_pos_iff.mpr filled)
  rw [Function.comp_apply, numberedNode, List.getD_eq_getElem?_getD,
    List.getElem?_eq_getElem inside]
  rfl

theorem filled_of_layout (filled : layout logicTable dataSources count ≠ []) :
    dataSources ≠ [] := by
  rintro rfl
  refine filled (List.filterMap_eq_nil_iff.mpr fun number _ => ?_)
  rw [List.getElem?_nil, Option.map_none]

theorem mem_layout_iff (filled : dataSources ≠ []) {node : DataNode} :
    node ∈ layout logicTable dataSources count ↔
      ∃ number < count, node = numberedNode logicTable dataSources number := by
  simp only [layout_eq filled, List.mem_map, List.mem_range, eq_comm]

/-- A table is laid out on data sources by the placement of its sharding column. -/
structure LaidOut (table : TableRule) (logicTable : String) (dataSources : List String)
    (column : String) (placement : StandardPlacement) : Prop where
  sourced : dataSources ≠ []
  unsharded : table.databaseStrategy = .unsharded
  strategy : ∃ algorithm, table.tableStrategy = .standard column algorithm placement
  nodes : ∃ count, placement.tableCount = some count ∧
    table.nodes = layout logicTable dataSources count

end TableRule

namespace Rule

variable {catalog : Catalog} {expand : String → Except Error (List DataNode)} {file : RuleFile}
  {rule : Rule} {logicTable : String} {entry : AutoTableEntry} {table : TableRule}

theorem tableCount_eq_ok {strategy : Strategy} {count : Nat}
    (counted : tableCount logicTable strategy = .ok count) :
    ∃ column algorithm placement, strategy = .standard column algorithm placement ∧
      placement.tableCount = some count := by
  unfold tableCount at counted
  split at counted
  next found =>
    cases counted
    obtain ⟨placement, standard, counts⟩ := Option.bind_eq_some_iff.mp found
    cases strategy with
    | standard column algorithm own =>
        cases standard
        exact ⟨column, algorithm, _, rfl, counts⟩
    | _ => cases standard
  next => cases counted

theorem laidOut_of_autoTableRule {algorithms : NameMap Placement}
    (built : autoTableRule algorithms file logicTable entry = .ok table) :
    ∃ column placement, table.LaidOut logicTable (entry.sources file) column placement ∧
      ∃ name, algorithms.get? name = some (.standard placement) := by
  have described := (described_of_autoTableRule built).2
  simp only [autoTableRule, bind_eq_ok, pure_eq_ok, step_eq_ok_iff] at built
  obtain ⟨strategy, _, count, counted, _, placed, rfl⟩ := built
  obtain ⟨column, algorithm, placement, rfl, counts⟩ := tableCount_eq_ok counted
  have filled := (TableRule.checkNodes_eq_ok placed).1
  refine ⟨column, placement, ?_, described.known _ rfl⟩
  exact ⟨TableRule.filled_of_layout filled, rfl, ⟨algorithm, rfl⟩, count, counts, rfl⟩

namespace IsBuilt

theorem autoTable_notBroadcast (isBuilt : IsBuilt catalog expand file rule)
    (listed : (logicTable, entry) ∈ file.autoTables.entries) :
    rule.isBroadcast logicTable = false := by
  rw [isBroadcast, isBuilt.broadcast, ← Bool.not_eq_true]
  intro broadcast
  obtain ⟨_, found⟩ := Option.isSome_iff_exists.mp broadcast
  obtain ⟨other, otherListed, same⟩ := List.mem_map.mp (NameMap.mem_of_get?_ofList found)
  have apart := (isBuilt.checked.broadcastApart other otherListed).1
  rw [(Prod.mk.inj same).1] at apart
  exact apart (List.mem_map_of_mem (List.mem_map_of_mem listed))

/-- Of the placements of this library, those by volume and by time lay out tables. -/
theorem exists_numbering (isBuilt : IsBuilt catalog expand file rule)
    (registered : catalog.placements = Catalog.builtin.placements) {name : String}
    {placement : StandardPlacement} {count : Nat}
    (found : rule.algorithms.get? name = some (.standard placement))
    (counts : placement.tableCount = some count) :
    ∃ numbering : Numbering, placement = numbering.placement := by
  cases isBuilt.algorithm_builtin registered found with
  | inline inline => cases counts
  | interval interval => exact ⟨.interval interval, rfl⟩
  | volume v => exact ⟨.volume v, rfl⟩

end IsBuilt

end Rule

end Sharding
