import Sharding.Proofs.Rule.References

/-!
# References while rules are built

A rule file that passes its check refers to nothing that is missing when the rule is built, with
any algorithms registered and any way to expand patterns. The built rule has one table for every
entry of the file and finds it under every spelling of its name.
-/

set_option autoImplicit false

namespace Sharding

/-- A reference of a rule file leads nowhere: a strategy lacks its algorithm or its column, or a
group has a member without a table. -/
def RuleFault.IsDangling : RuleFault → Prop
  | .unknownAlgorithm _ | .noColumn _ | .unknownMember _ => True
  | _ => False

def Error.IsDangling : Error → Prop
  | .config (.rule fault) => fault.IsDangling
  | _ => False

/-! ## Rule files -/

namespace RuleFile

variable {file : RuleFile}

/-- The strategies that the tables of a file are built with: their own, or else the default ones
of the file. -/
inductive Uses (file : RuleFile) : StrategyEntry → Prop where
  | database {name : String} {table : TableEntry} {entry : StrategyEntry}
      (listed : (name, table) ∈ file.tables.entries)
      (settled : (table.databaseStrategy <|> file.defaultDatabaseStrategy) = some entry) :
      Uses file entry
  | table {name : String} {table : TableEntry} {entry : StrategyEntry}
      (listed : (name, table) ∈ file.tables.entries)
      (settled : (table.tableStrategy <|> file.defaultTableStrategy) = some entry) :
      Uses file entry
  | auto {name : String} {table : AutoTableEntry}
      (listed : (name, table) ∈ file.autoTables.entries) : Uses file table.strategy

/-- A strategy has the column and the algorithm that it needs. -/
structure Resolves (file : RuleFile) (entry : StrategyEntry) : Prop where
  column : ∀ standard ∈ entry.standard, ∃ column, file.columnOf standard = some column
  algorithm : ∀ name ∈ entry.algorithm?, file.algorithms.contains name = true

theorem resolves_of_checkStrategy {scope field : String} {entry : StrategyEntry}
    (checked : file.checkStrategy scope field entry = .ok ()) : file.Resolves entry := by
  obtain ⟨_, columns, _, algorithms⟩ := checkStrategy_eq_ok_iff.mp checked
  refine ⟨fun standard given => ?_, algorithms⟩
  obtain ⟨column, known, _⟩ := (Option.any_eq_true _ _).mp (columns standard given)
  exact ⟨column, known⟩

theorem Checked.resolves (checked : file.Checked) {entry : StrategyEntry}
    (used : file.Uses entry) : file.Resolves entry := by
  have defaults := checked.defaults
  simp only [checkDefaults, seq_eq_ok, checkSome_eq_ok_iff] at defaults
  obtain ⟨defaultDatabase, defaultTable, _⟩ := defaults
  cases used with
  | @database name table _ listed settled =>
      have passed := checked.tables _ listed
      simp only [checkTable, seq_eq_ok, checkSome_eq_ok_iff] at passed
      rw [Option.orElse_eq_orElse, Option.orElse_eq_or, Option.or_eq_some_iff] at settled
      rcases settled with own | ⟨_, default⟩
      · exact resolves_of_checkStrategy (passed.1 entry own)
      · exact resolves_of_checkStrategy (defaultDatabase entry default)
  | @table name table _ listed settled =>
      have passed := checked.tables _ listed
      simp only [checkTable, seq_eq_ok, checkSome_eq_ok_iff] at passed
      rw [Option.orElse_eq_orElse, Option.orElse_eq_or, Option.or_eq_some_iff] at settled
      rcases settled with own | ⟨_, default⟩
      · exact resolves_of_checkStrategy (passed.2.1 entry own)
      · exact resolves_of_checkStrategy (defaultTable entry default)
  | auto listed =>
      have passed := checked.autoTables _ listed
      simp only [checkAutoTable, seq_eq_ok] at passed
      exact resolves_of_checkStrategy passed.1

end RuleFile

/-! ## Strategies -/

namespace Strategy

variable {algorithms : NameMap Placement} {file : RuleFile}

/-- Nothing is amiss with a name of an algorithm that is set up. -/
theorem find_failsOnly {name : String} {allowed : RuleFault → Prop}
    (known : (algorithms.get? name).isSome) : FailsOnly allowed (find algorithms name) := by
  obtain ⟨placement, found⟩ := Option.isSome_iff_exists.mp known
  rw [find, found]
  exact .ok placement

/-- A strategy that resolves can only have an algorithm of another capability. -/
theorem ofEntry_failsOnly {entry : StrategyEntry} (resolves : file.Resolves entry)
    (known : ∀ name, file.algorithms.contains name = true → (algorithms.get? name).isSome) :
    FailsOnly (fun fault => ¬ fault.IsDangling)
      (ofEntry algorithms file.defaultColumn entry) := by
  have found : ∀ name, entry.algorithm? = some name →
      FailsOnly (fun fault => ¬ fault.IsDangling) (find algorithms name) := fun name named =>
    find_failsOnly (known name (resolves.algorithm name named))
  obtain ⟨standard, complex, hint, unsharded⟩ := entry
  match standard, complex, hint with
  | some own, _, _ =>
      obtain ⟨column, settled⟩ := resolves.column own rfl
      have looked : (own.column <|> file.defaultColumn) = some column := settled
      dsimp only [ofEntry, ofStandard]
      rw [looked]
      refine (found own.algorithm rfl).bind fun placement _ => ?_
      cases placement with
      | standard placement => exact .ok _
      | _ => exact .error id
  | none, some own, _ =>
      refine (found own.algorithm rfl).bind fun placement _ => ?_
      cases placement with
      | complex placement => exact .ok _
      | _ => exact .error id
  | none, none, some own =>
      refine (found own.algorithm rfl).bind fun placement _ => ?_
      cases placement with
      | hint placement => exact .ok _
      | _ => exact .error id
  | none, none, none => exact .ok Strategy.unsharded

end Strategy

/-! ## Building -/

namespace Rule

variable {catalog : Catalog} {expand : String → Except Error (List DataNode)} {file : RuleFile}

/-- An error that an algorithm reports about its properties, or the expansion of a pattern. -/
inductive Reported (catalog : Catalog) (expand : String → Except Error (List DataNode))
    (error : Error) : Prop where
  | placement {type : String} {properties : Properties}
      (failed : catalog.placement type properties = .error error)
  | keyGenerator {type : String} {properties : Properties}
      (failed : catalog.keyGenerator type properties = .error error)
  | auditor {type : String} {properties : Properties}
      (failed : catalog.auditor type properties = .error error)
  | pattern {pattern : String} (failed : expand pattern = .error error)

/-- What a build may fail with if its file refers to nothing that is missing. -/
def Sound (catalog : Catalog) (expand : String → Except Error (List DataNode)) (error : Error) :
    Prop :=
  Reported catalog expand error ∨ ¬ error.IsDangling

theorem step_failsOnly {α : Type} {outcome : Except RuleFault α}
    (sound : FailsOnly (fun fault => ¬ fault.IsDangling) outcome) :
    FailsOnly (Sound catalog expand) (step outcome) := by
  cases outcome with
  | ok value => exact .ok value
  | error fault => exact .error (.inr (sound fault rfl))

theorem setUp_failsOnly {α : Type} {entries : NameMap AlgorithmEntry}
    {create : String → Properties → Except Error α}
    (reports : ∀ type properties error, create type properties = .error error →
      Reported catalog expand error) :
    FailsOnly (Sound catalog expand) (setUp entries create) := by
  refine FailsOnly.bind (FailsOnly.mapM fun entry _ => ?_) fun _ _ => .ok _
  exact FailsOnly.bind (fun error failed => .inl (reports _ _ error failed)) fun _ _ => .ok _

theorem checkNodes_failsOnly (name : String) (nodes : List DataNode) (dataSources : List String) :
    FailsOnly (fun fault => ¬ fault.IsDangling)
      (TableRule.checkNodes name nodes dataSources) := by
  unfold TableRule.checkNodes
  refine .ite (.error id) ?_
  split
  · exact .error id
  · exact .ok ()

section

variable {algorithms : NameMap Placement}
  (settled : setUp file.algorithms catalog.placement = .ok algorithms)

include settled

theorem ofEntry_failsOnly (checked : file.Checked) {entry : StrategyEntry}
    (used : file.Uses entry) :
    FailsOnly (fun fault => ¬ fault.IsDangling)
      (Strategy.ofEntry algorithms file.defaultColumn entry) :=
  Strategy.ofEntry_failsOnly (checked.resolves used) fun _ declared =>
    isSome_of_setUp settled declared

theorem strategy_failsOnly (checked : file.Checked) {entry : Option StrategyEntry}
    (used : ∀ given, entry = some given → file.Uses given) :
    FailsOnly (Sound catalog expand) (strategy algorithms file entry) := by
  cases entry with
  | none => exact .ok Strategy.unsharded
  | some given => exact step_failsOnly (ofEntry_failsOnly settled checked (used given rfl))

theorem tableRule_failsOnly (checked : file.Checked) {name : String} {entry : TableEntry}
    (listed : (name, entry) ∈ file.tables.entries) :
    FailsOnly (Sound catalog expand) (tableRule expand algorithms file name entry) := by
  have nodes : FailsOnly (Sound catalog expand) (tableNodes expand file name entry) := by
    unfold tableNodes
    split
    · exact fun error failed => .inl (.pattern failed)
    · exact .ok _
  refine nodes.bind fun nodes _ => (step_failsOnly (checkNodes_failsOnly _ _ _)).bind fun _ _ => ?_
  refine (strategy_failsOnly settled checked fun _ => .database listed).bind fun _ _ => ?_
  exact (strategy_failsOnly settled checked fun _ => .table listed).bind fun _ _ => .ok _

theorem autoTableRule_failsOnly (checked : file.Checked) {name : String} {entry : AutoTableEntry}
    (listed : (name, entry) ∈ file.autoTables.entries) :
    FailsOnly (Sound catalog expand) (autoTableRule algorithms file name entry) := by
  have used : ∀ given, some entry.strategy = some given → file.Uses given := by
    intro given same
    cases same
    exact .auto listed
  refine (strategy_failsOnly settled checked used).bind fun strategy _ => ?_
  refine (step_failsOnly ?_).bind fun _ _ =>
    (step_failsOnly (checkNodes_failsOnly _ _ _)).bind fun _ _ => .ok _
  unfold tableCount
  split
  · exact .ok _
  · exact .error id

theorem tableRules_failsOnly (checked : file.Checked) :
    FailsOnly (Sound catalog expand) (tableRules expand algorithms file) := by
  refine FailsOnly.bind (.mapM fun _ listed => tableRule_failsOnly settled checked listed)
    fun _ _ => ?_
  exact FailsOnly.bind (.mapM fun _ listed => autoTableRule_failsOnly settled checked listed)
    fun _ _ => .ok _

end

/-- Members of groups have tables, so the tables of a group may only differ in shape. -/
theorem checkGroup_failsOnly (checked : file.Checked) {algorithms : NameMap Placement}
    {tables : NameMap TableRule} (built : tableRules expand algorithms file = .ok tables)
    {group : List String} (listed : group ∈ groupsOf file) :
    FailsOnly (fun fault => ¬ fault.IsDangling) (checkGroup tables group) := by
  obtain ⟨own, auto, _, _, named, rfl⟩ := collected_of_tableRules built
  have known : ∀ member ∈ group, ((NameMap.ofList (keyed (own ++ auto))).get? member).isSome := by
    intro member memberOf
    obtain ⟨text, textListed, rfl⟩ := List.mem_map.mp listed
    apply NameMap.isSome_get?_ofList
    rw [map_fst_keyed named]
    exact checked.knownMembers member (List.mem_flatMap.mpr ⟨text, textListed, memberOf⟩)
  refine FailsOnly.bind (.mapM fun member memberOf => ?_) fun rules _ => ?_
  · obtain ⟨table, found⟩ := Option.isSome_iff_exists.mp (known member memberOf)
    rw [memberRule, found]
    exact .ok table
  · cases rules with
    | nil => exact .ok ()
    | cons first rest =>
        dsimp only
        split
        · exact .error id
        · exact .ok ()

theorem build_failsOnly (passed : file.check = .ok ()) :
    FailsOnly (Sound catalog expand) (build catalog expand file) := by
  have checked := RuleFile.checked_of_check passed
  simp only [build, passed]
  refine (setUp_failsOnly fun _ _ _ => .placement).bind fun algorithms settled => ?_
  refine (setUp_failsOnly fun _ _ _ => .keyGenerator).bind fun _ _ => ?_
  refine (setUp_failsOnly fun _ _ _ => .auditor).bind fun _ _ => ?_
  refine (tableRules_failsOnly settled checked).bind fun tables built => ?_
  exact (step_failsOnly (.forM fun _ => checkGroup_failsOnly checked built)).bind
    fun _ _ => .ok _

/-! ## Built rules -/

/-- A rule has all that its file names: one table for every entry of the file, which every
spelling of its name leads to, groups of such tables without a common member, and every auditor and
key generator of a table. -/
structure Complete (expand : String → Except Error (List DataNode)) (file : RuleFile)
    (rule : Rule) : Prop where
  entries : (rule.tables.entries.map fun entry => (entry.1, entry.2.logicTable)).Perm
    (file.tableNames.map fun name => (Name.fold name, name))
  tables : ∀ name entry, (name, entry) ∈ file.tables.entries → ∀ spelling,
    Name.Same name spelling → ∃ table, rule.table? spelling = some table ∧
      tableRule expand rule.algorithms file name entry = .ok table
  autoTables : ∀ name entry, (name, entry) ∈ file.autoTables.entries → ∀ spelling,
    Name.Same name spelling → ∃ table, rule.table? spelling = some table ∧
      autoTableRule rule.algorithms file name entry = .ok table
  groups : rule.groups = file.bindingTables.map RuleFile.memberKeys
  groupsApart : rule.groups.flatten.Nodup
  members : ∀ group ∈ rule.groups, ∀ name, Name.fold name ∈ group →
    rule.isSharded name = true ∧ rule.group? name = some group
  auditors : ∀ key table, (key, table) ∈ rule.tables.entries → ∀ entry ∈ table.audit,
    ∀ name ∈ entry.auditors, ∃ auditor, rule.auditors.get? name = some auditor
  keyGenerators : ∀ key table, (key, table) ∈ rule.tables.entries → ∀ entry ∈ table.key,
    ∃ generator, rule.keyGenerators.get? entry.generator = some generator

theorem IsBuilt.entries_perm {rule : Rule} (isBuilt : IsBuilt catalog expand file rule) :
    (rule.tables.entries.map fun entry => (entry.1, entry.2.logicTable)).Perm
      (file.tableNames.map fun name => (Name.fold name, name)) := by
  obtain ⟨own, auto, _, _, named, collected⟩ := collected_of_tableRules isBuilt.tables
  have distinct : ((keyed (own ++ auto)).map Prod.fst).Nodup := by
    rw [map_fst_keyed named]
    exact isBuilt.checked.distinctTables
  have same : (keyed (own ++ auto)).map (fun entry => (entry.1, entry.2.logicTable)) =
      file.tableNames.map fun name => (Name.fold name, name) := by
    rw [← named, keyed, List.map_map, List.map_map]
    rfl
  rw [collected, ← same]
  exact (NameMap.entries_ofList_perm distinct).map _

theorem Grouped.isSharded {rule : Rule} (grouped : rule.Grouped) {group : List String}
    (listed : group ∈ rule.groups) {name : String} (member : Name.fold name ∈ group) :
    rule.isSharded name = true := by
  obtain ⟨table, found⟩ := grouped.exists_table? listed member
  rw [Rule.isSharded, found]
  rfl

theorem IsBuilt.complete {rule : Rule} (isBuilt : IsBuilt catalog expand file rule) :
    Complete expand file rule where
  entries := isBuilt.entries_perm
  tables name entry listed spelling same := by
    obtain ⟨table, found, built⟩ := isBuilt.exists_table listed
    refine ⟨table, ?_, built⟩
    rwa [table?, ← same]
  autoTables name entry listed spelling same := by
    obtain ⟨table, found, built⟩ := isBuilt.exists_autoTable listed
    refine ⟨table, ?_, built⟩
    rwa [table?, ← same]
  groups := isBuilt.groups
  groupsApart := isBuilt.grouped.distinct
  members _ listed _ member :=
    ⟨isBuilt.grouped.isSharded listed member, isBuilt.grouped.group?_eq listed member⟩
  auditors _ _ member := isBuilt.auditor_known (NameMap.get?_of_mem member)
  keyGenerators _ _ member := isBuilt.generator_known (NameMap.get?_of_mem member)

/-- A rule file that passes its check refers to nothing that is missing. While a rule is built from
it, no strategy lacks its algorithm or its column and no member of a group lacks its table; an
error of that kind can only be one that the catalog or the expansion of patterns gives back. A rule
that is built has all that its file names. -/
theorem references_resolve {file : RuleFile} (passed : file.check = .ok ()) (catalog : Catalog)
    (expand : String → Except Error (List DataNode)) :
    (∀ algorithms, setUp file.algorithms catalog.placement = .ok algorithms →
      (∀ entry, file.Uses entry → ∀ fault,
        Strategy.ofEntry algorithms file.defaultColumn entry = .error fault →
          ¬ fault.IsDangling) ∧
      ∀ tables, tableRules expand algorithms file = .ok tables → ∀ group ∈ groupsOf file,
        ∀ fault, checkGroup tables group = .error fault → ¬ fault.IsDangling) ∧
    (∀ error, build catalog expand file = .error error → error.IsDangling →
      Reported catalog expand error) ∧
    ∀ rule, build catalog expand file = .ok rule → Complete expand file rule := by
  have checked := RuleFile.checked_of_check passed
  refine ⟨fun algorithms settled => ⟨fun entry used => ?_, fun tables built group listed => ?_⟩,
    fun error failed dangling => ?_, fun rule built => ?_⟩
  · exact ofEntry_failsOnly settled checked used
  · exact checkGroup_failsOnly checked built listed
  · exact (build_failsOnly passed error failed).resolve_right (not_not_intro dangling)
  · exact (isBuilt_of_build built).complete

private def mallDefault : StrategyEntry :=
  { standard := some ⟨none, "volume"⟩ }

private def mallFile : RuleFile where
  dataSources := ["ds_0", "ds_1"]
  tables := .ofList
    [("t_order", ⟨some "ds_$\x7b0..1\x7d.t_order_0", none, none, none, none⟩),
      ("t_item", ⟨some "ds_$\x7b0..1\x7d.t_item_0", none, none, none,
        some ⟨["need_key"], true⟩⟩)]
  autoTables := .ofList [("t_log", ⟨some "ds_1, ds_0", mallDefault, some ⟨"id", "flake"⟩, none⟩)]
  bindingTables := ["t_order, t_item"]
  defaultTableStrategy := some mallDefault
  defaultColumn := some " Order_Id "
  algorithms := .ofList
    [("volume", ⟨"VOLUME_RANGE", .ofList
      [("range-lower", "0"), ("range-upper", "20"), ("sharding-volume", "20")]⟩)]
  keyGenerators := .ofList [("flake", ⟨"SNOWFLAKE", .empty⟩)]
  auditors := .ofList [("need_key", ⟨"DML_SHARDING_CONDITIONS", .empty⟩)]

/-- Gives back the error that a member of a group without a table would give. -/
private def mallRefusal : String → Except Error (List DataNode) :=
  fun _ => .error (.config (.rule (.unknownMember "t_order")))

private theorem mallFile_checked : mallFile.check = .ok () := by
  decide +kernel

private theorem mallFile_refused : build .builtin mallRefusal mallFile =
    .error (.config (.rule (.unknownMember "t_order"))) := by
  have run : (match build .builtin mallRefusal mallFile with
      | .ok _ => none
      | .error error => some error) = some (.config (.rule (.unknownMember "t_order"))) := by
    decide +kernel
  split at run
  · cases run
  next failed => rw [failed, Option.some.inj run]

theorem mall_references_resolve :
    mallFile.check = .ok () ∧ mallFile.Uses mallDefault ∧
    (∃ algorithms, setUp mallFile.algorithms Catalog.builtin.placement = .ok algorithms ∧
      ∀ fault, Strategy.ofEntry algorithms mallFile.defaultColumn mallDefault = .error fault →
        ¬ fault.IsDangling) ∧
    (∃ error, build .builtin mallRefusal mallFile = .error error ∧ error.IsDangling ∧
      Reported .builtin mallRefusal error) ∧
    ∃ rule, build .builtin DataNode.expand mallFile = .ok rule ∧
      rule.tables.keys = ["t_item", "t_log", "t_order"] ∧
        Complete DataNode.expand mallFile rule := by
  have listed : ("t_log", ⟨some "ds_1, ds_0", mallDefault, some ⟨"id", "flake"⟩, none⟩) ∈
      mallFile.autoTables.entries := by decide +kernel
  have run : (build .builtin DataNode.expand mallFile >>= fun rule => pure (decide
      (rule.tables.keys = ["t_item", "t_log", "t_order"]))) = .ok true := by
    decide +kernel
  obtain ⟨rule, built, known⟩ := exists_of_decided run
  obtain ⟨resolved, _, complete⟩ :=
    references_resolve mallFile_checked .builtin DataNode.expand
  obtain ⟨_, reported, _⟩ := references_resolve mallFile_checked .builtin mallRefusal
  have settled := (isBuilt_of_build built).algorithms
  have used : mallFile.Uses mallDefault := .auto listed
  have dangling : (Error.config (.rule (.unknownMember "t_order"))).IsDangling := trivial
  refine ⟨mallFile_checked, used, ⟨rule.algorithms, settled, ?_⟩,
    ⟨_, mallFile_refused, dangling, ?_⟩, rule, built, known, complete rule built⟩
  · exact (resolved rule.algorithms settled).1 mallDefault used
  · exact reported _ mallFile_refused dangling

end Rule

end Sharding
