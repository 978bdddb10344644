import Sharding.Proofs.Rule.Build

/-!
# References of built rules

Whatever a table of a built rule refers to by name is there: its auditors, its key generator and
the algorithms of its strategies, which go by columns in lower case. Everything that is there was
set up by the catalog.
-/

set_option autoImplicit false

namespace Sharding

/-! ## Rule files -/

namespace RuleFile

variable {file : RuleFile} {name : String}

/-- The settings of a table beside its strategies refer to what the file declares. -/
structure Declares (file : RuleFile) (key : Option KeyEntry) (audit : Option AuditEntry) :
    Prop where
  generator : ∀ entry ∈ key, file.keyGenerators.contains entry.generator = true
  auditors : ∀ entry ∈ audit, ∀ auditor ∈ entry.auditors, file.auditors.contains auditor = true

theorem Declares.orElse {ownKey defaultKey : Option KeyEntry}
    {ownAudit defaultAudit : Option AuditEntry}
    (own : file.Declares ownKey ownAudit) (default : file.Declares defaultKey defaultAudit) :
    file.Declares (ownKey <|> defaultKey) (ownAudit <|> defaultAudit) where
  generator := by
    cases ownKey with
    | none => exact default.generator
    | some _ => exact own.generator
  auditors := by
    cases ownAudit with
    | none => exact default.auditors
    | some _ => exact own.auditors

namespace Checked

theorem defaults_declared (checked : file.Checked) :
    file.Declares file.defaultKey file.defaultAudit := by
  have passed := checked.defaults
  simp only [checkDefaults, seq_eq_ok, checkSome_eq_ok_iff, checkAudit_eq_ok_iff] at passed
  obtain ⟨_, _, key, audit⟩ := passed
  exact ⟨fun entry given => (checkKey_eq_ok_iff.mp (key entry given)).2, audit⟩

theorem table_declared {entry : TableEntry} (checked : file.Checked)
    (member : (name, entry) ∈ file.tables.entries) : file.Declares entry.key entry.audit := by
  have passed := checked.tables _ member
  simp only [checkTable, seq_eq_ok, checkSome_eq_ok_iff, checkAudit_eq_ok_iff] at passed
  obtain ⟨_, _, key, audit⟩ := passed
  exact ⟨fun entry given => (checkKey_eq_ok_iff.mp (key entry given)).2, audit⟩

theorem autoTable_declared {entry : AutoTableEntry} (checked : file.Checked)
    (member : (name, entry) ∈ file.autoTables.entries) : file.Declares entry.key entry.audit := by
  have passed := checked.autoTables _ member
  simp only [checkAutoTable, seq_eq_ok, checkSome_eq_ok_iff, checkAudit_eq_ok_iff] at passed
  obtain ⟨_, _, key, audit, _⟩ := passed
  exact ⟨fun entry given => (checkKey_eq_ok_iff.mp (key entry given)).2, audit⟩

end Checked

end RuleFile

/-! ## Strategies -/

theorem Name.toLower_toLower (letter : Char) : letter.toLower.toLower = letter.toLower := by
  unfold Char.toLower
  split
  next upper =>
    split
    next again =>
      simp [UInt32.le_iff_toNat_le] at upper again
      omega
    next => rfl
  next => rfl

theorem Name.fold_fold (name : String) : Name.fold (Name.fold name) = Name.fold name := by
  rw [← String.toList_inj, fold, fold, String.toList_map, String.toList_map, List.map_map]
  exact List.map_congr_left fun letter _ => toLower_toLower letter

namespace Strategy

def placement? : Strategy → Option Placement
  | .standard _ _ placement => some (.standard placement)
  | .complex _ _ placement => some (.complex placement)
  | .hint _ placement => some (.hint placement)
  | .unsharded => none

variable {algorithms : NameMap Placement} {strategy : Strategy} {placement : Placement}

theorem find_eq_ok {name : String} (found : find algorithms name = .ok placement) :
    algorithms.get? name = some placement := by
  unfold find at found
  cases known : algorithms.get? name with
  | none => simp [known] at found
  | some other =>
      simp only [known, Except.ok.injEq] at found
      rw [found]

theorem ofStandard_origin {defaultColumn : Option String} {entry : StandardEntry}
    (made : ofStandard algorithms defaultColumn entry = .ok strategy) :
    ∃ column placement, strategy = .standard (Name.fold column) entry.algorithm placement ∧
      algorithms.get? entry.algorithm = some (.standard placement) := by
  unfold ofStandard at made
  split at made
  · cases made
  · obtain ⟨found, looked, kept⟩ := bind_eq_ok.mp made
    split at kept
    · cases kept
      exact ⟨_, _, rfl, find_eq_ok looked⟩
    · cases kept

theorem ofComplex_origin {entry : ComplexEntry}
    (made : ofComplex algorithms entry = .ok strategy) :
    ∃ (columns : List String) (placement : ComplexPlacement),
      strategy = .complex (columns.map Name.fold) entry.algorithm placement ∧
      algorithms.get? entry.algorithm = some (.complex placement) := by
  obtain ⟨found, looked, kept⟩ := bind_eq_ok.mp made
  split at kept
  · cases kept
    exact ⟨_, _, rfl, find_eq_ok looked⟩
  · cases kept

theorem ofHint_origin {entry : HintEntry} (made : ofHint algorithms entry = .ok strategy) :
    ∃ placement, strategy = .hint entry.algorithm placement ∧
      algorithms.get? entry.algorithm = some (.hint placement) := by
  obtain ⟨found, looked, kept⟩ := bind_eq_ok.mp made
  split at kept
  · cases kept
    exact ⟨_, rfl, find_eq_ok looked⟩
  · cases kept

/-- A strategy goes by columns in lower case and places by a known algorithm. -/
structure Described (strategy : Strategy) (algorithms : NameMap Placement) : Prop where
  folded : ∀ column ∈ strategy.columns, Name.fold column = column
  known : ∀ placement ∈ strategy.placement?, ∃ name, algorithms.get? name = some placement

theorem described_unsharded (algorithms : NameMap Placement) :
    Described .unsharded algorithms :=
  ⟨nofun, nofun⟩

theorem described_of_ofEntry {defaultColumn : Option String} {entry : StrategyEntry}
    (made : ofEntry algorithms defaultColumn entry = .ok strategy) :
    strategy.Described algorithms := by
  unfold ofEntry at made
  split at made
  · obtain ⟨column, placement, rfl, found⟩ := ofStandard_origin made
    constructor
    · intro own member
      cases List.mem_singleton.mp member
      exact Name.fold_fold column
    · intro used placed
      cases placed
      exact ⟨_, found⟩
  · obtain ⟨columns, placement, rfl, found⟩ := ofComplex_origin made
    constructor
    · intro own member
      obtain ⟨column, _, rfl⟩ := List.mem_map.mp member
      exact Name.fold_fold column
    · intro used placed
      cases placed
      exact ⟨_, found⟩
  · obtain ⟨placement, rfl, found⟩ := ofHint_origin made
    constructor
    · intro own member
      cases member
    · intro used placed
      cases placed
      exact ⟨_, found⟩
  · cases made
    exact described_unsharded algorithms

end Strategy

/-- A placement is one of a strategy of the table. -/
def TableRule.Places (table : TableRule) (placement : Placement) : Prop :=
  placement ∈ table.databaseStrategy.placement? ∨ placement ∈ table.tableStrategy.placement?

/-! ## Rules -/

namespace Rule

variable {catalog : Catalog} {expand : String → Except Error (List DataNode)} {file : RuleFile}
  {rule : Rule} {key : String} {table : TableRule}

theorem described_of_strategy {algorithms : NameMap Placement} {entry : Option StrategyEntry}
    {made : Strategy} (settled : strategy algorithms file entry = .ok made) :
    made.Described algorithms := by
  cases entry with
  | none =>
      cases settled
      exact Strategy.described_unsharded algorithms
  | some entry => exact Strategy.described_of_ofEntry (step_eq_ok_iff.mp settled)

section

variable {α : Type} {entries : NameMap AlgorithmEntry}
  {create : String → Properties → Except Error α} {made : NameMap α}

theorem setUp_origin (settled : setUp entries create = .ok made) {name : String} {algorithm : α}
    (found : made.get? name = some algorithm) :
    ∃ type properties, create type properties = .ok algorithm := by
  simp only [setUp, bind_eq_ok, pure_eq_ok] at settled
  obtain ⟨pairs, walked, rfl⟩ := settled
  obtain ⟨⟨_, entry⟩, _, created⟩ :=
    exists_left_of_mem (mapM_eq_ok_iff.mp walked) (NameMap.mem_of_get?_ofList found)
  simp only [bind_eq_ok, pure_eq_ok] at created
  obtain ⟨_, created, same⟩ := created
  cases same
  exact ⟨_, _, created⟩

theorem isSome_of_setUp (settled : setUp entries create = .ok made) {name : String}
    (declared : entries.contains name = true) : (made.get? name).isSome := by
  simp only [setUp, bind_eq_ok, pure_eq_ok] at settled
  obtain ⟨pairs, walked, rfl⟩ := settled
  obtain ⟨entry, known⟩ := Option.isSome_iff_exists.mp declared
  obtain ⟨pair, member, created⟩ :=
    exists_right_of_mem (mapM_eq_ok_iff.mp walked) (NameMap.mem_of_get? known)
  simp only [bind_eq_ok, pure_eq_ok] at created
  obtain ⟨_, _, rfl⟩ := created
  exact NameMap.isSome_get?_ofList (List.mem_map_of_mem member)

end

section

variable {algorithms : NameMap Placement} {name : String}

theorem declares_of_tableRule {entry : TableEntry} (checked : file.Checked)
    (member : (name, entry) ∈ file.tables.entries)
    (built : tableRule expand algorithms file name entry = .ok table) :
    file.Declares table.key table.audit := by
  simp only [tableRule, bind_eq_ok, pure_eq_ok] at built
  obtain ⟨_, _, _, _, _, _, _, _, rfl⟩ := built
  exact (checked.table_declared member).orElse checked.defaults_declared

theorem declares_of_autoTableRule {entry : AutoTableEntry} (checked : file.Checked)
    (member : (name, entry) ∈ file.autoTables.entries)
    (built : autoTableRule algorithms file name entry = .ok table) :
    file.Declares table.key table.audit := by
  simp only [autoTableRule, bind_eq_ok, pure_eq_ok] at built
  obtain ⟨_, _, _, _, _, _, rfl⟩ := built
  exact (checked.autoTable_declared member).orElse checked.defaults_declared

theorem described_of_tableRule {entry : TableEntry}
    (built : tableRule expand algorithms file name entry = .ok table) :
    table.databaseStrategy.Described algorithms ∧ table.tableStrategy.Described algorithms := by
  simp only [tableRule, bind_eq_ok, pure_eq_ok] at built
  obtain ⟨_, _, _, _, _, database, _, own, rfl⟩ := built
  exact ⟨described_of_strategy database, described_of_strategy own⟩

theorem described_of_autoTableRule {entry : AutoTableEntry}
    (built : autoTableRule algorithms file name entry = .ok table) :
    table.databaseStrategy.Described algorithms ∧ table.tableStrategy.Described algorithms := by
  simp only [autoTableRule, bind_eq_ok, pure_eq_ok] at built
  obtain ⟨_, own, _, _, _, _, rfl⟩ := built
  exact ⟨Strategy.described_unsharded algorithms, described_of_strategy own⟩

end

namespace IsBuilt

theorem declares (isBuilt : IsBuilt catalog expand file rule)
    (found : rule.tables.get? key = some table) : file.Declares table.key table.audit := by
  rcases isBuilt.table_origin found with ⟨entry, member, built⟩ | ⟨entry, member, built⟩
  · exact declares_of_tableRule isBuilt.checked member built
  · exact declares_of_autoTableRule isBuilt.checked member built

theorem auditor_known (isBuilt : IsBuilt catalog expand file rule)
    (found : rule.tables.get? key = some table) :
    ∀ entry ∈ table.audit, ∀ name ∈ entry.auditors, ∃ auditor,
      rule.auditors.get? name = some auditor := by
  intro entry given name listed
  have declared := (isBuilt.declares found).auditors entry given name listed
  exact Option.isSome_iff_exists.mp (isSome_of_setUp isBuilt.auditors declared)

theorem generator_known (isBuilt : IsBuilt catalog expand file rule)
    (found : rule.tables.get? key = some table) :
    ∀ entry ∈ table.key, ∃ generator,
      rule.keyGenerators.get? entry.generator = some generator := by
  intro entry given
  have declared := (isBuilt.declares found).generator entry given
  exact Option.isSome_iff_exists.mp (isSome_of_setUp isBuilt.keyGenerators declared)

theorem described (isBuilt : IsBuilt catalog expand file rule)
    (found : rule.tables.get? key = some table) :
    table.databaseStrategy.Described rule.algorithms ∧
      table.tableStrategy.Described rule.algorithms := by
  rcases isBuilt.table_origin found with ⟨entry, _, built⟩ | ⟨entry, _, built⟩
  · exact described_of_tableRule built
  · exact described_of_autoTableRule built

/-- The strategies of a table place by algorithms of the rule. -/
theorem places_known (isBuilt : IsBuilt catalog expand file rule)
    (found : rule.tables.get? key = some table) {placement : Placement}
    (places : table.Places placement) : ∃ name, rule.algorithms.get? name = some placement := by
  obtain ⟨database, own⟩ := isBuilt.described found
  rcases places with used | used
  · exact database.known placement used
  · exact own.known placement used

end IsBuilt

end Rule

end Sharding
