import Mathlib.Data.List.Pairwise
import Sharding.Proofs.RuleFile.Check
import Sharding.Proofs.TableRule
import Sharding.Rule.Build

/-!
# Built rules

What holds of a rule because it was built: where its tables come from, and that its groups are
apart from each other and each of them of one shape.
-/

set_option autoImplicit false

namespace Sharding.Rule

open RuleFile (memberKeys)

variable {catalog : Catalog} {expand : String → Except Error (List DataNode)} {file : RuleFile}
  {rule : Rule}

theorem step_eq_ok_iff {α : Type} {outcome : Except RuleFault α} {value : α} :
    step outcome = .ok value ↔ outcome = .ok value := by
  cases outcome <;> simp [step]

/-- A rule is what a rule file comes to. -/
structure IsBuilt (catalog : Catalog) (expand : String → Except Error (List DataNode))
    (file : RuleFile) (rule : Rule) : Prop where
  checked : file.Checked
  dataSources : rule.dataSources = file.dataSources
  defaultDataSource : rule.defaultDataSource = file.resolvedDefault
  algorithms : setUp file.algorithms catalog.placement = .ok rule.algorithms
  keyGenerators : setUp file.keyGenerators catalog.keyGenerator = .ok rule.keyGenerators
  auditors : setUp file.auditors catalog.auditor = .ok rule.auditors
  tables : tableRules expand rule.algorithms file = .ok rule.tables
  groups : rule.groups = groupsOf file
  groupsChecked : ∀ group ∈ rule.groups, checkGroup rule.tables group = .ok ()
  broadcast : rule.broadcast = .ofList (file.broadcastTables.map fun name => (Name.fold name, name))

theorem isBuilt_of_build (built : build catalog expand file = .ok rule) :
    IsBuilt catalog expand file rule := by
  unfold build at built
  cases checked : file.check with
  | error fault => simp [checked] at built
  | ok _ =>
      simp only [checked, bind_eq_ok, pure_eq_ok] at built
      obtain ⟨algorithms, algorithmsSet, generators, generatorsSet, auditors, auditorsSet, tables,
        tablesBuilt, _, groupsChecked, rfl⟩ := built
      exact {
        checked := RuleFile.checked_of_check checked
        dataSources := rfl
        defaultDataSource := rfl
        algorithms := algorithmsSet
        keyGenerators := generatorsSet
        auditors := auditorsSet
        tables := tablesBuilt
        groups := rfl
        groupsChecked := forM_eq_ok_iff.mp (step_eq_ok_iff.mp groupsChecked)
        broadcast := rfl }

/-! ## Tables -/

theorem logicTable_of_tableRule {algorithms : NameMap Placement} {name : String}
    {entry : TableEntry} {table : TableRule}
    (built : tableRule expand algorithms file name entry = .ok table) :
    table.logicTable = name := by
  simp only [tableRule, bind_eq_ok, pure_eq_ok] at built
  obtain ⟨_, _, _, _, _, _, _, _, rfl⟩ := built
  rfl

theorem logicTable_of_autoTableRule {algorithms : NameMap Placement} {name : String}
    {entry : AutoTableEntry} {table : TableRule}
    (built : autoTableRule algorithms file name entry = .ok table) :
    table.logicTable = name := by
  simp only [autoTableRule, bind_eq_ok, pure_eq_ok] at built
  obtain ⟨_, _, _, _, _, _, rfl⟩ := built
  rfl

theorem map_logicTable {α : Type} {entries : List (String × α)} {tables : List TableRule}
    (step : String → α → Except Error TableRule)
    (named : ∀ name entry table, step name entry = .ok table → table.logicTable = name)
    (built : List.Forall₂ (fun pair table => step pair.1 pair.2 = .ok table) entries tables) :
    tables.map (·.logicTable) = entries.map Prod.fst := by
  induction built with
  | nil => rfl
  | cons own _ ih => rw [List.map_cons, List.map_cons, ih, named _ _ _ own]

/-- Tables under their names in lower case. -/
def keyed (tables : List TableRule) : List (String × TableRule) :=
  tables.map fun table => (Name.fold table.logicTable, table)

/-- The rules that are collected are one for every entry of the file, in the order of the
entries. -/
theorem collected_of_tableRules {algorithms : NameMap Placement} {collected : NameMap TableRule}
    (built : tableRules expand algorithms file = .ok collected) :
    ∃ tables autoTables,
      List.Forall₂ (fun pair table => tableRule expand algorithms file pair.1 pair.2 = .ok table)
        file.tables.entries tables ∧
      List.Forall₂ (fun pair table => autoTableRule algorithms file pair.1 pair.2 = .ok table)
        file.autoTables.entries autoTables ∧
      (tables ++ autoTables).map (·.logicTable) = file.tableNames ∧
      collected = .ofList (keyed (tables ++ autoTables)) := by
  simp only [tableRules, bind_eq_ok, pure_eq_ok, mapM_eq_ok_iff] at built
  obtain ⟨tables, tablesBuilt, autoTables, autoBuilt, rfl⟩ := built
  refine ⟨tables, autoTables, tablesBuilt, autoBuilt, ?_, rfl⟩
  rw [List.map_append, map_logicTable (tableRule expand algorithms file)
      (fun _ _ _ => logicTable_of_tableRule) tablesBuilt,
    map_logicTable (autoTableRule algorithms file)
      (fun _ _ _ => logicTable_of_autoTableRule) autoBuilt]
  rfl

theorem map_fst_keyed {tables : List TableRule} {names : List String}
    (named : tables.map (·.logicTable) = names) :
    (keyed tables).map Prod.fst = names.map Name.fold := by
  rw [← named, keyed, List.map_map, List.map_map]
  rfl

/-- Every table of a built rule is one that its rule file describes. -/
theorem IsBuilt.table_origin (isBuilt : IsBuilt catalog expand file rule) {key : String}
    {table : TableRule} (found : rule.tables.get? key = some table) :
    (∃ entry, (table.logicTable, entry) ∈ file.tables.entries ∧
      tableRule expand rule.algorithms file table.logicTable entry = .ok table) ∨
    ∃ entry, (table.logicTable, entry) ∈ file.autoTables.entries ∧
      autoTableRule rule.algorithms file table.logicTable entry = .ok table := by
  obtain ⟨tables, autoTables, tablesBuilt, autoBuilt, _, collected⟩ :=
    collected_of_tableRules isBuilt.tables
  rw [collected] at found
  obtain ⟨other, member, same⟩ := List.mem_map.mp (NameMap.mem_of_get?_ofList found)
  cases same
  rcases List.mem_append.mp member with own | auto
  · obtain ⟨⟨name, entry⟩, entryMember, entryBuilt⟩ := exists_left_of_mem tablesBuilt own
    rw [logicTable_of_tableRule entryBuilt]
    exact .inl ⟨entry, entryMember, entryBuilt⟩
  · obtain ⟨⟨name, entry⟩, entryMember, entryBuilt⟩ := exists_left_of_mem autoBuilt auto
    rw [logicTable_of_autoTableRule entryBuilt]
    exact .inr ⟨entry, entryMember, entryBuilt⟩

theorem IsBuilt.get?_of_mem (isBuilt : IsBuilt catalog expand file rule)
    {tables : List TableRule} (named : tables.map (·.logicTable) = file.tableNames)
    (collected : rule.tables = .ofList (keyed tables)) {table : TableRule}
    (member : table ∈ tables) : rule.table? table.logicTable = some table := by
  rw [table?, collected]
  refine NameMap.get?_ofList_of_nodup ?_ (List.mem_map_of_mem member)
  rw [map_fst_keyed named]
  exact isBuilt.checked.distinctTables

/-- Every table of a rule file is found in the rule. -/
theorem IsBuilt.exists_table (isBuilt : IsBuilt catalog expand file rule) {name : String}
    {entry : TableEntry} (listed : (name, entry) ∈ file.tables.entries) :
    ∃ table, rule.table? name = some table ∧
      tableRule expand rule.algorithms file name entry = .ok table := by
  obtain ⟨tables, autoTables, tablesBuilt, _, named, collected⟩ :=
    collected_of_tableRules isBuilt.tables
  obtain ⟨table, member, built⟩ := exists_right_of_mem tablesBuilt listed
  refine ⟨table, ?_, built⟩
  rw [← show table.logicTable = name from logicTable_of_tableRule built]
  exact isBuilt.get?_of_mem named collected (List.mem_append_left _ member)

/-- Every auto table of a rule file is found in the rule. -/
theorem IsBuilt.exists_autoTable (isBuilt : IsBuilt catalog expand file rule) {name : String}
    {entry : AutoTableEntry} (listed : (name, entry) ∈ file.autoTables.entries) :
    ∃ table, rule.table? name = some table ∧
      autoTableRule rule.algorithms file name entry = .ok table := by
  obtain ⟨tables, autoTables, _, autoBuilt, named, collected⟩ :=
    collected_of_tableRules isBuilt.tables
  obtain ⟨table, member, built⟩ := exists_right_of_mem autoBuilt listed
  refine ⟨table, ?_, built⟩
  rw [← show table.logicTable = name from logicTable_of_autoTableRule built]
  exact isBuilt.get?_of_mem named collected (List.mem_append_right _ member)

/-- A table is found under the spellings of its own name. -/
theorem IsBuilt.same_logicTable (isBuilt : IsBuilt catalog expand file rule) {name : String}
    {table : TableRule} (found : rule.table? name = some table) :
    Name.Same table.logicTable name := by
  obtain ⟨_, _, _, _, _, collected⟩ := collected_of_tableRules isBuilt.tables
  rw [table?, collected] at found
  obtain ⟨other, _, same⟩ := List.mem_map.mp (NameMap.mem_of_get?_ofList found)
  obtain ⟨key, rfl⟩ := Prod.mk.inj same
  exact key

theorem placed_of_tableRule {algorithms : NameMap Placement} {name : String} {entry : TableEntry}
    {table : TableRule} (checked : file.Checked)
    (distinct : ∀ pattern nodes, expand pattern = .ok nodes → nodes.Nodup)
    (built : tableRule expand algorithms file name entry = .ok table) :
    table.Placed file.dataSources := by
  simp only [tableRule, bind_eq_ok, pure_eq_ok, step_eq_ok_iff] at built
  obtain ⟨nodes, listed, _, placed, _, _, _, _, rfl⟩ := built
  obtain ⟨filled, declared⟩ := TableRule.checkNodes_eq_ok placed
  refine ⟨filled, ?_, declared⟩
  unfold tableNodes at listed
  cases pattern : entry.nodes with
  | some pattern => exact distinct _ _ (by simpa only [pattern] using listed)
  | none =>
      simp only [pattern, Except.ok.injEq] at listed
      subst listed
      exact checked.distinctSources.map fun _ _ same => congrArg DataNode.dataSource same

theorem placed_of_autoTableRule {algorithms : NameMap Placement} {name : String}
    {entry : AutoTableEntry} {table : TableRule}
    (built : autoTableRule algorithms file name entry = .ok table) :
    table.Placed file.dataSources := by
  simp only [autoTableRule, bind_eq_ok, pure_eq_ok, step_eq_ok_iff] at built
  obtain ⟨_, _, count, _, _, placed, rfl⟩ := built
  obtain ⟨filled, declared⟩ := TableRule.checkNodes_eq_ok placed
  exact ⟨filled, TableRule.nodup_layout _ _ _, declared⟩

/-- If patterns stand for distinct nodes, so does every table. -/
theorem IsBuilt.placed (isBuilt : IsBuilt catalog expand file rule)
    (distinct : ∀ pattern nodes, expand pattern = .ok nodes → nodes.Nodup) {key : String}
    {table : TableRule} (found : rule.tables.get? key = some table) :
    table.Placed rule.dataSources := by
  rw [isBuilt.dataSources]
  rcases isBuilt.table_origin found with ⟨entry, _, built⟩ | ⟨entry, _, built⟩
  · exact placed_of_tableRule isBuilt.checked distinct built
  · exact placed_of_autoTableRule built

/-! ## Groups -/

theorem memberRule_eq_ok_iff {tables : NameMap TableRule} {member : String} {table : TableRule} :
    memberRule tables member = .ok table ↔ tables.get? member = some table := by
  unfold memberRule
  cases tables.get? member <;> simp

theorem checkGroup_eq_ok {tables : NameMap TableRule} {group : List String}
    (checked : checkGroup tables group = .ok ()) :
    ∃ shape, ∀ member ∈ group, ∃ table, tables.get? member = some table ∧ table.shape = shape := by
  simp only [checkGroup, bind_eq_ok] at checked
  obtain ⟨rules, looked, compared⟩ := checked
  have paired := mapM_eq_ok_iff.mp looked
  simp only [memberRule_eq_ok_iff] at paired
  cases rules with
  | nil =>
      cases paired
      exact ⟨[], fun _ member => absurd member List.not_mem_nil⟩
  | cons first rest =>
      refine ⟨first.shape, fun member memberOf => ?_⟩
      obtain ⟨table, tableOf, found⟩ := exists_right_of_mem paired memberOf
      refine ⟨table, found, ?_⟩
      cases different : rest.find? fun other => other.shape ≠ first.shape with
      | some other => simp only [different, reduceCtorEq] at compared
      | none =>
          rcases List.mem_cons.mp tableOf with rfl | tableOf
          · rfl
          · simpa using List.find?_eq_none.mp different table tableOf

/-- The groups of a rule share no members and are not empty. The tables of a group are sharded
tables of one shape and no broadcast tables. -/
structure Grouped (rule : Rule) : Prop where
  distinct : rule.groups.flatten.Nodup
  filled : ∀ group ∈ rule.groups, group ≠ []
  shaped : ∀ group ∈ rule.groups, ∃ shape, ∀ key ∈ group, ∃ table,
    rule.tables.get? key = some table ∧ table.shape = shape
  notBroadcast : ∀ group ∈ rule.groups, ∀ key ∈ group, rule.broadcast.contains key = false

theorem IsBuilt.grouped (isBuilt : IsBuilt catalog expand file rule) : rule.Grouped where
  distinct := by
    rw [isBuilt.groups, groupsOf]
    exact isBuilt.checked.distinctMembers
  filled group member := by
    rw [isBuilt.groups, groupsOf] at member
    obtain ⟨listed, listedMember, rfl⟩ := List.mem_map.mp member
    exact isBuilt.checked.groupsFilled listed listedMember
  shaped group member := checkGroup_eq_ok (isBuilt.groupsChecked group member)
  notBroadcast group member key keyMember := by
    rw [isBuilt.groups, groupsOf] at member
    obtain ⟨listed, listedMember, rfl⟩ := List.mem_map.mp member
    have known : key ∈ file.bindingTables.flatMap memberKeys :=
      List.mem_flatMap.mpr ⟨listed, listedMember, keyMember⟩
    rw [← Bool.not_eq_true, isBuilt.broadcast]
    intro broadcast
    obtain ⟨name, found⟩ := Option.isSome_iff_exists.mp broadcast
    obtain ⟨other, otherMember, same⟩ := List.mem_map.mp (NameMap.mem_of_get?_ofList found)
    cases same
    exact (isBuilt.checked.broadcastApart name otherMember).2 known

section

variable {group : List String} {name : String}

theorem group?_eq_some (found : rule.group? name = some group) :
    group ∈ rule.groups ∧ Name.fold name ∈ group :=
  ⟨List.mem_of_find?_eq_some found, by simpa using List.find?_some found⟩

namespace Grouped

theorem eq_of_mem {key : String} {other : List String} (grouped : rule.Grouped)
    (groupMember : group ∈ rule.groups) (otherMember : other ∈ rule.groups)
    (inGroup : key ∈ group) (inOther : key ∈ other) : group = other := by
  by_cases equal : group = other
  · exact equal
  · have : Std.Symm (α := List String) List.Disjoint :=
      ⟨fun _ _ apart _ right left => apart left right⟩
    have apart := (List.nodup_flatten.mp grouped.distinct).2.forall groupMember otherMember equal
    exact absurd inOther (apart inGroup)

theorem group?_eq (grouped : rule.Grouped) (groupMember : group ∈ rule.groups)
    (inside : Name.fold name ∈ group) : rule.group? name = some group := by
  have found : (rule.group? name).isSome :=
    List.find?_isSome.mpr ⟨group, groupMember, List.contains_iff_mem.mpr inside⟩
  obtain ⟨other, foundOther⟩ := Option.isSome_iff_exists.mp found
  obtain ⟨otherMember, inOther⟩ := group?_eq_some foundOther
  rw [foundOther, grouped.eq_of_mem groupMember otherMember inside inOther]

theorem exists_table? (grouped : rule.Grouped) (groupMember : group ∈ rule.groups)
    (inside : Name.fold name ∈ group) : ∃ table, rule.table? name = some table := by
  obtain ⟨_, tables⟩ := grouped.shaped group groupMember
  obtain ⟨table, ruled, _⟩ := tables _ inside
  exact ⟨table, ruled⟩

end Grouped

end

end Sharding.Rule
