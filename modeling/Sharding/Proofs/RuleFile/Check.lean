import Sharding.Proofs.Outcome
import Sharding.RuleFile.Check

/-!
# Checked rule files

What a rule file that passes its check is known to say.
-/

set_option autoImplicit false

namespace Sharding.RuleFile

variable {file : RuleFile}

/-- The keys of the members of a group. -/
def memberKeys (group : String) : List String :=
  (Text.items group).map Name.fold

theorem ensure_eq_ok_iff {condition : Bool} {fault : RuleFileFault} :
    ensure condition fault = .ok () ↔ condition = true := by
  cases condition <;> simp [ensure]

theorem checkSome_eq_ok_iff {α : Type} {check : α → Except RuleFileFault Unit}
    {value : Option α} :
    checkSome check value = .ok () ↔ ∀ given ∈ value, check given = .ok () := by
  cases value <;> simp [checkSome]

theorem checkStrategy_eq_ok_iff {scope field : String} {entry : StrategyEntry} :
    file.checkStrategy scope field entry = .ok () ↔
      entry.kindsSet ≤ 1 ∧
      (∀ standard ∈ entry.standard,
        (file.columnOf standard).any (fun column => !Text.isBlankText column) = true) ∧
      (∀ complex ∈ entry.complex, Text.items complex.columns ≠ []) ∧
      ∀ name ∈ entry.algorithm?, file.algorithms.contains name = true := by
  unfold checkStrategy
  cases entry.standard <;> cases entry.complex <;> cases entry.algorithm? <;>
    simp [seq_eq_ok, ensure_eq_ok_iff]

theorem checkKey_eq_ok_iff {scope : String} {entry : KeyEntry} :
    file.checkKey scope entry = .ok () ↔
      Text.isBlankText entry.column = false ∧
      file.keyGenerators.contains entry.generator = true := by
  simp only [checkKey, seq_eq_ok, ensure_eq_ok_iff, Bool.not_eq_true']

theorem checkAudit_eq_ok_iff {scope : String} {entry : AuditEntry} :
    file.checkAudit scope entry = .ok () ↔
      ∀ auditor ∈ entry.auditors, file.auditors.contains auditor = true := by
  simp only [checkAudit, forM_eq_ok_iff, ensure_eq_ok_iff]

/-- Keys that differ from each other and from the keys that were seen before. -/
structure Fresh (seen keys : List String) : Prop where
  distinct : keys.Nodup
  unseen : ∀ key ∈ keys, key ∉ seen

theorem Fresh.nil {seen : List String} : Fresh seen [] :=
  ⟨.nil, fun _ member => absurd member List.not_mem_nil⟩

theorem fresh_cons_iff {seen keys : List String} {key : String} :
    Fresh seen (key :: keys) ↔ key ∉ seen ∧ Fresh (key :: seen) keys := by
  constructor
  · rintro ⟨distinct, unseen⟩
    obtain ⟨different, distinct⟩ := List.nodup_cons.mp distinct
    refine ⟨unseen key List.mem_cons_self, distinct, fun other member old => ?_⟩
    rcases List.mem_cons.mp old with rfl | old
    · exact different member
    · exact unseen other (List.mem_cons_of_mem _ member) old
  · rintro ⟨notSeen, rest⟩
    refine ⟨List.nodup_cons.mpr ⟨fun member => ?_, rest.distinct⟩, fun other member => ?_⟩
    · exact rest.unseen key member List.mem_cons_self
    · rcases List.mem_cons.mp member with rfl | member
      · exact notSeen
      · exact fun old => rest.unseen other member (List.mem_cons_of_mem _ old)

theorem fresh_append_iff {seen keys others : List String} :
    Fresh seen (keys ++ others) ↔ Fresh seen keys ∧ Fresh (keys.reverse ++ seen) others := by
  induction keys generalizing seen with
  | nil => exact (and_iff_right .nil).symm
  | cons key keys ih =>
      rw [List.cons_append, fresh_cons_iff, fresh_cons_iff, ih, List.reverse_cons,
        List.append_assoc, List.singleton_append, and_assoc]

theorem fresh_nil_iff {keys : List String} : Fresh [] keys ↔ keys.Nodup :=
  ⟨Fresh.distinct, fun distinct => ⟨distinct, fun _ _ => List.not_mem_nil⟩⟩

theorem checkDataSources_eq_ok_iff {seen names : List String} :
    checkDataSources seen names = .ok () ↔
      (∀ name ∈ names, Text.isBlankText name = false) ∧ Fresh seen names := by
  induction names generalizing seen with
  | nil => simp [checkDataSources, Fresh.nil]
  | cons name names ih =>
      rw [checkDataSources, List.forall_mem_cons, fresh_cons_iff]
      cases Text.isBlankText name with
      | true => simp
      | false => by_cases old : name ∈ seen <;> simp [old, ih]

theorem checkTableNames_eq_ok_iff {seen names : List String} :
    checkTableNames seen names = .ok () ↔
      (∀ name ∈ names, Text.isBlankText name = false) ∧ Fresh seen (names.map Name.fold) := by
  induction names generalizing seen with
  | nil => simp [checkTableNames, Fresh.nil]
  | cons name names ih =>
      rw [checkTableNames, List.forall_mem_cons, List.map_cons, fresh_cons_iff]
      cases Text.isBlankText name with
      | true => simp
      | false => by_cases old : Name.fold name ∈ seen <;> simp [old, ih]

/-! ## Groups -/

theorem checkMembers_eq_ok_iff {seen members all : List String} :
    file.checkMembers seen members = .ok all ↔
      (∀ member ∈ members, Name.fold member ∈ file.tableNames.map Name.fold) ∧
      Fresh seen (members.map Name.fold) ∧ (members.map Name.fold).reverse ++ seen = all := by
  induction members generalizing seen with
  | nil => simp [checkMembers, Fresh.nil]
  | cons member members ih =>
      rw [checkMembers, List.forall_mem_cons, List.map_cons, fresh_cons_iff, List.reverse_cons,
        List.append_assoc, List.singleton_append]
      by_cases declared : Name.fold member ∈ file.tableNames.map Name.fold
      · by_cases old : Name.fold member ∈ seen <;> simp [declared, old, ih]
      · simp [declared]

theorem memberKeys_eq_nil_iff {group : String} : memberKeys group = [] ↔ Text.items group = [] :=
  List.map_eq_nil_iff

theorem checkGroups_eq_ok_iff {index : Nat} {seen groups all : List String} :
    file.checkGroups index seen groups = .ok all ↔
      (∀ group ∈ groups, memberKeys group ≠ []) ∧
      (∀ key ∈ groups.flatMap memberKeys, key ∈ file.tableNames.map Name.fold) ∧
      Fresh seen (groups.flatMap memberKeys) ∧
      (groups.flatMap memberKeys).reverse ++ seen = all := by
  induction groups generalizing index seen with
  | nil => simp [checkGroups, Fresh.nil]
  | cons group groups ih =>
      have filled : (!(Text.items group).isEmpty) = true ↔ memberKeys group ≠ [] := by
        rw [Bool.not_eq_true', List.isEmpty_eq_false_iff, Ne, Ne, memberKeys_eq_nil_iff]
      have declared : (∀ member ∈ Text.items group,
          Name.fold member ∈ file.tableNames.map Name.fold) ↔
          ∀ key ∈ memberKeys group, key ∈ file.tableNames.map Name.fold := by
        rw [memberKeys, List.forall_mem_map]
      rw [checkGroups, seq_eq_ok, ensure_eq_ok_iff, filled, bind_eq_ok]
      simp only [checkMembers_eq_ok_iff, declared, ih, List.forall_mem_cons, List.flatMap_cons,
        List.forall_mem_append, fresh_append_iff, List.reverse_append, List.append_assoc]
      constructor
      · rintro ⟨first, _, ⟨known, fresh, rfl⟩, others, othersKnown, othersFresh, same⟩
        exact ⟨⟨first, others⟩, ⟨known, othersKnown⟩, ⟨fresh, othersFresh⟩, same⟩
      · rintro ⟨⟨first, others⟩, ⟨known, othersKnown⟩, ⟨fresh, othersFresh⟩, same⟩
        exact ⟨first, _, ⟨known, fresh, rfl⟩, others, othersKnown, othersFresh, same⟩

theorem checkBroadcast_eq_ok_iff {members : List String} {table : String} :
    file.checkBroadcast members table = .ok () ↔
      Name.fold table ∉ file.autoTables.keys.map Name.fold ∧ Name.fold table ∉ members := by
  simp only [checkBroadcast, seq_eq_ok, ensure_eq_ok_iff, decide_eq_true_eq]

/-! ## Whole files -/

/-- What the check of a rule file establishes. -/
structure Checked (file : RuleFile) : Prop where
  sourced : file.dataSources ≠ []
  distinctSources : file.dataSources.Nodup
  defaultDeclared : ∀ name ∈ file.defaultDataSource, name ∈ file.dataSources
  distinctTables : (file.tableNames.map Name.fold).Nodup
  defaults : file.checkDefaults = .ok ()
  tables : ∀ entry ∈ file.tables.entries, file.checkTable entry.1 entry.2 = .ok ()
  autoTables : ∀ entry ∈ file.autoTables.entries, file.checkAutoTable entry.1 entry.2 = .ok ()
  groupsFilled : ∀ group ∈ file.bindingTables, memberKeys group ≠ []
  distinctMembers : (file.bindingTables.flatMap memberKeys).Nodup
  knownMembers : ∀ key ∈ file.bindingTables.flatMap memberKeys,
    key ∈ file.tableNames.map Name.fold
  broadcastApart : ∀ table ∈ file.broadcastTables,
    Name.fold table ∉ file.autoTables.keys.map Name.fold ∧
      Name.fold table ∉ file.bindingTables.flatMap memberKeys

theorem check_eq_ok_iff : file.check = .ok () ↔
    (∀ name ∈ file.dataSources ++ file.tableNames, Text.isBlankText name = false) ∧
      file.Checked := by
  have sourced : (!file.dataSources.isEmpty) = true ↔ file.dataSources ≠ [] := by
    rw [Bool.not_eq_true', List.isEmpty_eq_false_iff]
  simp only [check, seq_eq_ok, ensure_eq_ok_iff, checkSome_eq_ok_iff, forM_eq_ok_iff,
    checkDataSources_eq_ok_iff, checkTableNames_eq_ok_iff, fresh_nil_iff, sourced,
    List.contains_iff_mem, List.forall_mem_append]
  simp only [bind_eq_ok, forM_eq_ok_iff, checkGroups_eq_ok_iff, checkBroadcast_eq_ok_iff,
    fresh_nil_iff, List.append_nil]
  constructor
  · rintro ⟨sourced, ⟨namedSources, distinctSources⟩, defaultDeclared,
      ⟨namedTables, distinctTables⟩, defaults, tables, autoTables, _,
      ⟨groupsFilled, knownMembers, distinctMembers, rfl⟩, broadcastApart⟩
    simp only [List.mem_reverse] at broadcastApart
    exact ⟨⟨namedSources, namedTables⟩, {
      sourced, distinctSources, defaultDeclared, distinctTables, defaults, tables, autoTables,
      groupsFilled, distinctMembers, knownMembers, broadcastApart }⟩
  · rintro ⟨⟨namedSources, namedTables⟩, checked⟩
    refine ⟨checked.sourced, ⟨namedSources, checked.distinctSources⟩, checked.defaultDeclared,
      ⟨namedTables, checked.distinctTables⟩, checked.defaults, checked.tables, checked.autoTables,
      _, ⟨checked.groupsFilled, checked.knownMembers, checked.distinctMembers, rfl⟩, ?_⟩
    simpa only [List.mem_reverse] using checked.broadcastApart

theorem checked_of_check (passed : file.check = .ok ()) : file.Checked :=
  (check_eq_ok_iff.mp passed).2

/-- Tables without a rule go to a declared data source. -/
theorem Checked.resolvedDefault_mem (checked : file.Checked) {name : String}
    (resolved : file.resolvedDefault = some name) : name ∈ file.dataSources := by
  unfold resolvedDefault at resolved
  split at resolved
  next given named =>
    cases resolved
    exact checked.defaultDeclared _ named
  next only =>
    cases resolved
    rw [only]
    exact List.mem_cons_self
  next => cases resolved

end Sharding.RuleFile
