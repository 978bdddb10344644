import Mathlib.Data.List.Nodup
import Sharding.TableRule
import Std.Data.String.ToNat

/-!
# Nodes of tables

The nodes of a table data source by data source, and that nodes which are laid out by number are
all different.
-/

set_option autoImplicit false

namespace Sharding

theorem nodup_eraseDups {α : Type} [BEq α] [LawfulBEq α] (items : List α) :
    items.eraseDups.Nodup := by
  cases items with
  | nil => exact .nil
  | cons item items =>
      rw [List.eraseDups_cons]
      refine List.nodup_cons.mpr ⟨?_, nodup_eraseDups _⟩
      rw [List.mem_eraseDups, List.mem_filter]
      simp
termination_by items.length
decreasing_by exact Nat.lt_succ_of_le (List.length_filter_le _ _)

namespace TableRule

variable {table : TableRule} {dataSource : String}

/-- The nodes on a data source. -/
def nodesOn (table : TableRule) (dataSource : String) : List DataNode :=
  table.nodes.filter fun node => node.dataSource = dataSource

/-- The nodes data source by data source, each in the order of its first node. -/
def nodesBySource (table : TableRule) : List DataNode :=
  table.dataSources.flatMap table.nodesOn

theorem mem_nodesOn_iff {node : DataNode} :
    node ∈ table.nodesOn dataSource ↔ node ∈ table.nodes ∧ node.dataSource = dataSource := by
  simp [nodesOn]

theorem map_actualTables (table : TableRule) (dataSource : String) :
    (table.actualTables dataSource).map (fun name => ⟨dataSource, name⟩) =
      table.nodesOn dataSource := by
  have unchanged : ∀ node ∈ table.nodesOn dataSource, ⟨dataSource, node.table⟩ = node := by
    intro node member
    rw [← (mem_nodesOn_iff.mp member).2]
  rw [actualTables, List.map_map]
  exact (List.map_congr_left unchanged).trans (List.map_id' _)

theorem mem_actualTables_iff {name : String} :
    name ∈ table.actualTables dataSource ↔ ⟨dataSource, name⟩ ∈ table.nodes := by
  rw [actualTables, List.mem_map]
  constructor
  · rintro ⟨node, member, rfl⟩
    obtain ⟨inside, rfl⟩ := mem_nodesOn_iff.mp member
    exact inside
  · intro inside
    exact ⟨_, mem_nodesOn_iff.mpr ⟨inside, rfl⟩, rfl⟩

theorem mem_dataSources_of_mem {node : DataNode} (member : node ∈ table.nodes) :
    node.dataSource ∈ table.dataSources :=
  List.mem_eraseDups.mpr (List.mem_map_of_mem member)

theorem nodup_dataSources (table : TableRule) : table.dataSources.Nodup :=
  nodup_eraseDups _

theorem nodup_actualTables (distinct : table.nodes.Nodup) (dataSource : String) :
    (table.actualTables dataSource).Nodup := by
  have distinctOn : (table.nodesOn dataSource).Nodup := distinct.filter _
  rw [← map_actualTables] at distinctOn
  exact distinctOn.of_map

theorem nodup_nodesBySource (distinct : table.nodes.Nodup) : table.nodesBySource.Nodup := by
  refine List.nodup_flatMap.mpr ⟨fun dataSource _ => distinct.filter _, ?_⟩
  refine table.nodup_dataSources.imp fun different node left right => different ?_
  rw [← (mem_nodesOn_iff.mp left).2, ← (mem_nodesOn_iff.mp right).2]

theorem mem_nodes_of_mem_nodesBySource {node : DataNode} (member : node ∈ table.nodesBySource) :
    node ∈ table.nodes := by
  obtain ⟨_, _, inside⟩ := List.mem_flatMap.mp member
  exact (mem_nodesOn_iff.mp inside).1

/-- Laid out nodes differ in their numbers, even where a data source is listed twice. -/
theorem nodup_layout (logicTable : String) (dataSources : List String) (count : Nat) :
    (layout logicTable dataSources count).Nodup := by
  refine List.nodup_range.filterMap fun left right node leftNode rightNode => ?_
  obtain ⟨_, _, leftEq⟩ := Option.map_eq_some_iff.mp leftNode
  obtain ⟨_, _, rightEq⟩ := Option.map_eq_some_iff.mp rightNode
  have names := congrArg DataNode.table (leftEq.trans rightEq.symm)
  exact Nat.repr_injective ((String.append_right_inj _).mp names)

/-- The nodes of a table are some, are distinct and lie on given data sources. -/
structure Placed (table : TableRule) (dataSources : List String) : Prop where
  filled : table.nodes ≠ []
  distinct : table.nodes.Nodup
  declared : ∀ node ∈ table.nodes, node.dataSource ∈ dataSources

theorem checkNodes_eq_ok {name : String} {nodes : List DataNode} {dataSources : List String}
    (checked : checkNodes name nodes dataSources = .ok ()) :
    nodes ≠ [] ∧ ∀ node ∈ nodes, node.dataSource ∈ dataSources := by
  unfold checkNodes at checked
  split at checked
  next => cases checked
  next filled =>
    refine ⟨fun empty => filled (List.isEmpty_iff.mpr empty), fun node member => ?_⟩
    cases undeclared : nodes.find? fun node => node.dataSource ∉ dataSources with
    | some other => simp only [undeclared, reduceCtorEq] at checked
    | none => simpa using List.find?_eq_none.mp undeclared node member

end TableRule

end Sharding
