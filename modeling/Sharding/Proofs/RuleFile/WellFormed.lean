import Sharding.Proofs.RuleFile.Check

/-!
# Well-formed rule files

What a rule file has to say, apart from the order in which it is looked through: names are there
and told apart, strategies have what their kind needs, and whatever is referred to is declared. A
file passes its check exactly if it is well formed.
-/

set_option autoImplicit false

namespace Sharding

theorem Name.nodup_map_fold_iff {names : List String} :
    (names.map fold).Nodup ↔ names.Pairwise fun name other => ¬ Same name other :=
  List.pairwise_map

theorem Name.fold_mem_map_iff {name : String} {names : List String} :
    fold name ∈ names.map fold ↔ ∃ other ∈ names, Same name other := by
  simp only [List.mem_map, Same, eq_comm]

namespace StrategyEntry

/-- The algorithms that the kinds of a strategy name, of all kinds that are set. -/
def algorithms (entry : StrategyEntry) : List String :=
  (entry.standard.map (·.algorithm)).toList ++ (entry.complex.map (·.algorithm)).toList ++
    (entry.hint.map (·.algorithm)).toList

/-- At most one kind of the strategy is set. -/
inductive Single : StrategyEntry → Prop where
  | none : Single {}
  | standard (entry : StandardEntry) : Single { standard := some entry }
  | complex (entry : ComplexEntry) : Single { complex := some entry }
  | hint (entry : HintEntry) : Single { hint := some entry }
  | unsharded : Single { unsharded := true }

theorem kindsSet_le_one_iff {entry : StrategyEntry} : entry.kindsSet ≤ 1 ↔ entry.Single := by
  constructor
  · intro few
    obtain ⟨standard, complex, hint, unsharded⟩ := entry
    cases standard <;> cases complex <;> cases hint <;> cases unsharded <;>
      first
        | constructor
        | exact absurd few (by simp [kindsSet])
  · rintro (_ | _ | _ | _ | _) <;> simp [kindsSet]

theorem Single.toList_algorithm? {entry : StrategyEntry} (single : entry.Single) :
    entry.algorithm?.toList = entry.algorithms := by
  cases single <;> rfl

end StrategyEntry

namespace RuleFile

/-! ## Entries of a file -/

/-- All strategies that the file sets. -/
def strategies (file : RuleFile) : List StrategyEntry :=
  file.defaultDatabaseStrategy.toList ++ file.defaultTableStrategy.toList ++
    (file.tables.values.flatMap fun table =>
      table.databaseStrategy.toList ++ table.tableStrategy.toList) ++
    file.autoTables.values.map (·.strategy)

def keyEntries (file : RuleFile) : List KeyEntry :=
  file.defaultKey.toList ++ file.tables.values.filterMap (·.key) ++
    file.autoTables.values.filterMap (·.key)

def auditEntries (file : RuleFile) : List AuditEntry :=
  file.defaultAudit.toList ++ file.tables.values.filterMap (·.audit) ++
    file.autoTables.values.filterMap (·.audit)

/-- The tables that the binding groups list, group by group. -/
def members (file : RuleFile) : List String :=
  file.bindingTables.flatMap Text.items

/-- A strategy is of one kind at most and has what its kind needs. -/
structure StrategyFits (file : RuleFile) (entry : StrategyEntry) : Prop where
  single : entry.Single
  column : ∀ standard ∈ entry.standard, ∃ column, Text.isBlankText column = false ∧
    (standard.column = some column ∨
      standard.column = none ∧ file.defaultColumn = some column)
  columns : ∀ complex ∈ entry.complex, Text.items complex.columns ≠ []
  declared : ∀ name ∈ entry.algorithms, name ∈ file.algorithms.keys

structure KeyFits (file : RuleFile) (entry : KeyEntry) : Prop where
  column : Text.isBlankText entry.column = false
  declared : entry.generator ∈ file.keyGenerators.keys

def AuditFits (file : RuleFile) (entry : AuditEntry) : Prop :=
  ∀ name ∈ entry.auditors, name ∈ file.auditors.keys

/-- An auto table is sharded by one column, over declared data sources. -/
structure AutoFits (file : RuleFile) (table : AutoTableEntry) : Prop where
  standard : table.strategy.standard ≠ none
  declared : ∀ list ∈ table.dataSources, ∀ name ∈ Text.items list, name ∈ file.dataSources

/-- A rule file that has all it needs. No two tables have one name, auto tables among them. -/
structure WellFormed (file : RuleFile) : Prop where
  sourced : file.dataSources ≠ []
  namedSources : ∀ name ∈ file.dataSources, Text.isBlankText name = false
  distinctSources : file.dataSources.Nodup
  defaultDeclared : ∀ name ∈ file.defaultDataSource, name ∈ file.dataSources
  namedTables : ∀ name ∈ file.tables.keys ++ file.autoTables.keys, Text.isBlankText name = false
  distinctTables : (file.tables.keys ++ file.autoTables.keys).Pairwise fun name other =>
    ¬ Name.Same name other
  strategies : ∀ entry ∈ file.strategies, file.StrategyFits entry
  keys : ∀ entry ∈ file.keyEntries, file.KeyFits entry
  audits : ∀ entry ∈ file.auditEntries, file.AuditFits entry
  autoTables : ∀ table ∈ file.autoTables.values, file.AutoFits table
  groupsFilled : ∀ group ∈ file.bindingTables, Text.items group ≠ []
  membersDeclared : ∀ member ∈ file.members,
    ∃ name ∈ file.tables.keys ++ file.autoTables.keys, Name.Same member name
  distinctMembers : file.members.Pairwise fun member other => ¬ Name.Same member other
  broadcastApart : ∀ table ∈ file.broadcastTables,
    (∀ name ∈ file.autoTables.keys, ¬ Name.Same table name) ∧
      ∀ member ∈ file.members, ¬ Name.Same table member

variable {file : RuleFile} {scope field name : String}

/-! ## Checks of entries -/

theorem columnOf_eq_some_iff {standard : StandardEntry} {column : String} :
    file.columnOf standard = some column ↔ standard.column = some column ∨
      standard.column = none ∧ file.defaultColumn = some column := by
  rw [columnOf, Option.orElse_eq_orElse, Option.orElse_eq_or, Option.or_eq_some_iff]

theorem any_columnOf_iff {standard : StandardEntry} :
    (file.columnOf standard).any (fun column => !Text.isBlankText column) = true ↔
      ∃ column, Text.isBlankText column = false ∧ (standard.column = some column ∨
        standard.column = none ∧ file.defaultColumn = some column) := by
  simp only [Option.any_eq_true, columnOf_eq_some_iff, Bool.not_eq_true', and_comm]

/-- Of one kind at most, the algorithm of the first kind is the only one. -/
theorem declared_iff {entry : StrategyEntry} (single : entry.Single) :
    (∀ name ∈ entry.algorithm?, file.algorithms.contains name = true) ↔
      ∀ name ∈ entry.algorithms, name ∈ file.algorithms.keys := by
  simp only [← single.toList_algorithm?, Option.mem_toList, Option.mem_def,
    NameMap.contains_iff_mem_keys]

theorem checkStrategy_eq_ok_iff_fits {entry : StrategyEntry} :
    file.checkStrategy scope field entry = .ok () ↔ file.StrategyFits entry := by
  rw [checkStrategy_eq_ok_iff, StrategyEntry.kindsSet_le_one_iff]
  simp only [any_columnOf_iff]
  constructor
  · rintro ⟨single, named, columns, known⟩
    exact ⟨single, named, columns, (declared_iff single).mp known⟩
  · rintro ⟨single, named, columns, known⟩
    exact ⟨single, named, columns, (declared_iff single).mpr known⟩

theorem checkKey_eq_ok_iff_fits {entry : KeyEntry} :
    file.checkKey scope entry = .ok () ↔ file.KeyFits entry := by
  rw [checkKey_eq_ok_iff, NameMap.contains_iff_mem_keys]
  exact ⟨fun ⟨column, declared⟩ => ⟨column, declared⟩, fun fits => ⟨fits.column, fits.declared⟩⟩

theorem checkAudit_eq_ok_iff_fits {entry : AuditEntry} :
    file.checkAudit scope entry = .ok () ↔ file.AuditFits entry := by
  simp only [checkAudit_eq_ok_iff, AuditFits, NameMap.contains_iff_mem_keys]

theorem checkDefaults_eq_ok_iff : file.checkDefaults = .ok () ↔
    (∀ entry ∈ file.defaultDatabaseStrategy, file.StrategyFits entry) ∧
    (∀ entry ∈ file.defaultTableStrategy, file.StrategyFits entry) ∧
    (∀ entry ∈ file.defaultKey, file.KeyFits entry) ∧
    ∀ entry ∈ file.defaultAudit, file.AuditFits entry := by
  simp only [checkDefaults, seq_eq_ok, checkSome_eq_ok_iff, checkStrategy_eq_ok_iff_fits,
    checkKey_eq_ok_iff_fits, checkAudit_eq_ok_iff_fits]

theorem checkTable_eq_ok_iff {table : TableEntry} : file.checkTable name table = .ok () ↔
    (∀ entry ∈ table.databaseStrategy, file.StrategyFits entry) ∧
    (∀ entry ∈ table.tableStrategy, file.StrategyFits entry) ∧
    (∀ entry ∈ table.key, file.KeyFits entry) ∧
    ∀ entry ∈ table.audit, file.AuditFits entry := by
  simp only [checkTable, seq_eq_ok, checkSome_eq_ok_iff, checkStrategy_eq_ok_iff_fits,
    checkKey_eq_ok_iff_fits, checkAudit_eq_ok_iff_fits]

theorem checkAutoTable_eq_ok_iff {table : AutoTableEntry} :
    file.checkAutoTable name table = .ok () ↔
      file.StrategyFits table.strategy ∧ file.AutoFits table ∧
      (∀ entry ∈ table.key, file.KeyFits entry) ∧
      ∀ entry ∈ table.audit, file.AuditFits entry := by
  have standard : table.strategy.standard.isSome = true ↔ table.strategy.standard ≠ none :=
    Option.isSome_iff_ne_none
  simp only [checkAutoTable, seq_eq_ok, checkSome_eq_ok_iff, checkStrategy_eq_ok_iff_fits,
    checkKey_eq_ok_iff_fits, checkAudit_eq_ok_iff_fits, ensure_eq_ok_iff, forM_eq_ok_iff,
    List.contains_iff_mem, standard]
  constructor
  · rintro ⟨strategy, standard, key, audit, declared⟩
    exact ⟨strategy, ⟨standard, declared⟩, key, audit⟩
  · rintro ⟨strategy, ⟨standard, declared⟩, key, audit⟩
    exact ⟨strategy, standard, key, audit, declared⟩

/-! ## Whole files -/

theorem forall_mem_strategies_iff {Fits : StrategyEntry → Prop} :
    (∀ entry ∈ file.strategies, Fits entry) ↔
      (∀ entry ∈ file.defaultDatabaseStrategy, Fits entry) ∧
      (∀ entry ∈ file.defaultTableStrategy, Fits entry) ∧
      (∀ table ∈ file.tables.values, (∀ entry ∈ table.databaseStrategy, Fits entry) ∧
        ∀ entry ∈ table.tableStrategy, Fits entry) ∧
      ∀ table ∈ file.autoTables.values, Fits table.strategy := by
  simp only [strategies, List.forall_mem_append, Option.mem_toList, List.forall_mem_flatMap,
    List.forall_mem_map, Option.mem_def, and_assoc]

theorem forall_mem_keyEntries_iff {Fits : KeyEntry → Prop} :
    (∀ entry ∈ file.keyEntries, Fits entry) ↔ (∀ entry ∈ file.defaultKey, Fits entry) ∧
      (∀ table ∈ file.tables.values, ∀ entry ∈ table.key, Fits entry) ∧
      ∀ table ∈ file.autoTables.values, ∀ entry ∈ table.key, Fits entry := by
  simp only [keyEntries, List.forall_mem_append, Option.mem_toList, List.forall_mem_filterMap,
    Option.mem_def, and_assoc]

theorem forall_mem_auditEntries_iff {Fits : AuditEntry → Prop} :
    (∀ entry ∈ file.auditEntries, Fits entry) ↔ (∀ entry ∈ file.defaultAudit, Fits entry) ∧
      (∀ table ∈ file.tables.values, ∀ entry ∈ table.audit, Fits entry) ∧
      ∀ table ∈ file.autoTables.values, ∀ entry ∈ table.audit, Fits entry := by
  simp only [auditEntries, List.forall_mem_append, Option.mem_toList, List.forall_mem_filterMap,
    Option.mem_def, and_assoc]

theorem entries_checked_iff :
    (file.checkDefaults = .ok () ∧
      (∀ entry ∈ file.tables.entries, file.checkTable entry.1 entry.2 = .ok ()) ∧
      ∀ entry ∈ file.autoTables.entries, file.checkAutoTable entry.1 entry.2 = .ok ()) ↔
    (∀ entry ∈ file.strategies, file.StrategyFits entry) ∧
      (∀ entry ∈ file.keyEntries, file.KeyFits entry) ∧
      (∀ entry ∈ file.auditEntries, file.AuditFits entry) ∧
      ∀ table ∈ file.autoTables.values, file.AutoFits table := by
  rw [forall_mem_strategies_iff, forall_mem_keyEntries_iff, forall_mem_auditEntries_iff]
  simp only [checkDefaults_eq_ok_iff, checkTable_eq_ok_iff, checkAutoTable_eq_ok_iff,
    NameMap.values, List.forall_mem_map, imp_and, forall_and]
  constructor
  · rintro ⟨⟨database, table, key, audit⟩, ⟨databases, tables, keys, audits⟩,
      autoStrategies, autos, autoKeys, autoAudits⟩
    exact ⟨⟨database, table, ⟨databases, tables⟩, autoStrategies⟩, ⟨key, keys, autoKeys⟩,
      ⟨audit, audits, autoAudits⟩, autos⟩
  · rintro ⟨⟨database, table, ⟨databases, tables⟩, autoStrategies⟩, ⟨key, keys, autoKeys⟩,
      ⟨audit, audits, autoAudits⟩, autos⟩
    exact ⟨⟨database, table, key, audit⟩, ⟨databases, tables, keys, audits⟩,
      autoStrategies, autos, autoKeys, autoAudits⟩

theorem map_fold_members : file.members.map Name.fold = file.bindingTables.flatMap memberKeys :=
  List.map_flatMap

theorem groups_checked_iff :
    ((∀ group ∈ file.bindingTables, memberKeys group ≠ []) ∧
      (file.bindingTables.flatMap memberKeys).Nodup ∧
      ∀ key ∈ file.bindingTables.flatMap memberKeys, key ∈ file.tableNames.map Name.fold) ↔
    (∀ group ∈ file.bindingTables, Text.items group ≠ []) ∧
      (file.members.Pairwise fun member other => ¬ Name.Same member other) ∧
      ∀ member ∈ file.members, ∃ name ∈ file.tableNames, Name.Same member name := by
  simp only [Ne, memberKeys_eq_nil_iff, ← map_fold_members, Name.nodup_map_fold_iff,
    List.forall_mem_map, Name.fold_mem_map_iff]

theorem apart_iff {table : String} :
    (Name.fold table ∉ file.autoTables.keys.map Name.fold ∧
      Name.fold table ∉ file.bindingTables.flatMap memberKeys) ↔
    (∀ name ∈ file.autoTables.keys, ¬ Name.Same table name) ∧
      ∀ member ∈ file.members, ¬ Name.Same table member := by
  simp only [← map_fold_members, Name.fold_mem_map_iff, not_exists, not_and]

/-- A rule file passes its check exactly if it is well formed. -/
theorem accepted_iff_wellFormed (file : RuleFile) : file.check = .ok () ↔ file.WellFormed := by
  rw [check_eq_ok_iff, List.forall_mem_append]
  constructor
  · rintro ⟨⟨namedSources, namedTables⟩, checked⟩
    obtain ⟨strategies, keys, audits, autoTables⟩ :=
      entries_checked_iff.mp ⟨checked.defaults, checked.tables, checked.autoTables⟩
    obtain ⟨groupsFilled, distinctMembers, membersDeclared⟩ :=
      groups_checked_iff.mp ⟨checked.groupsFilled, checked.distinctMembers, checked.knownMembers⟩
    exact {
      sourced := checked.sourced
      namedSources
      distinctSources := checked.distinctSources
      defaultDeclared := checked.defaultDeclared
      namedTables
      distinctTables := Name.nodup_map_fold_iff.mp checked.distinctTables
      strategies, keys, audits, autoTables, groupsFilled, distinctMembers, membersDeclared
      broadcastApart := fun table member => apart_iff.mp (checked.broadcastApart table member) }
  · intro formed
    obtain ⟨defaults, tables, autoTables⟩ := entries_checked_iff.mpr
      ⟨formed.strategies, formed.keys, formed.audits, formed.autoTables⟩
    obtain ⟨groupsFilled, distinctMembers, knownMembers⟩ := groups_checked_iff.mpr
      ⟨formed.groupsFilled, formed.distinctMembers, formed.membersDeclared⟩
    exact ⟨⟨formed.namedSources, formed.namedTables⟩, {
      sourced := formed.sourced
      distinctSources := formed.distinctSources
      defaultDeclared := formed.defaultDeclared
      distinctTables := Name.nodup_map_fold_iff.mpr formed.distinctTables
      defaults, tables, autoTables, groupsFilled, distinctMembers, knownMembers
      broadcastApart := fun table member => apart_iff.mpr (formed.broadcastApart table member) }⟩

end RuleFile

end Sharding
