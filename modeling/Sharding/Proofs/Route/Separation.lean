import Sharding.Proofs.Route.Binding

/-!
# Tables apart from each other

Outside its group a table is routed by what the rule, the conditions on it and the hints for it
say. Two statements that agree on these may name other tables, in any order and with any conditions
and hints, and route the table alike.
-/

set_option autoImplicit false

namespace Sharding

/-! ## What a table reads of a hint -/

/-- Two hints say the same of a table, though maybe not of others. -/
structure HintContext.AgreeOn (left right : HintContext) (table : String) : Prop where
  databaseOnly : left.isDatabaseOnly = right.isDatabaseOnly
  unkeyedValues : left.unkeyedValues = right.unkeyedValues
  databaseValues : left.databaseValuesFor table = right.databaseValuesFor table
  tableValues : left.tableValuesFor table = right.tableValuesFor table

theorem HintContext.AgreeOn.of_same {left right : HintContext} {table other : String}
    (agree : left.AgreeOn right table) (same : Name.Same table other) :
    left.AgreeOn right other := by
  have databaseValues := agree.databaseValues
  have tableValues := agree.tableValues
  unfold HintContext.databaseValuesFor at databaseValues
  unfold HintContext.tableValuesFor at tableValues
  simp only [Hint.databaseValuesFor_congr same] at databaseValues
  simp only [Hint.tableValuesFor_congr same] at tableValues
  exact ⟨agree.databaseOnly, agree.unkeyedValues, databaseValues, tableValues⟩

namespace TableRule

variable {table : TableRule} {conditions : List Condition} {left right : Option Hint}

theorem databaseEvidence_eq_read (table : TableRule) (conditions : List Condition)
    (context : HintContext) :
    table.databaseEvidence conditions context =
      if context.isDatabaseOnly then .hinted context.unkeyedValues
      else match context.databaseValuesFor table.logicTable with
        | [] => .conditions conditions
        | values => .hinted values := by
  cases context with
  | none => rfl
  | some hint => rfl

theorem select_eq_of_agreeOn (agree : HintContext.AgreeOn left right table.logicTable) :
    table.select conditions left = table.select conditions right := by
  have database : table.databaseEvidence conditions left =
      table.databaseEvidence conditions right := by
    rw [databaseEvidence_eq_read, databaseEvidence_eq_read, agree.databaseOnly,
      agree.unkeyedValues, agree.databaseValues]
  have own : table.tableEvidence conditions left = table.tableEvidence conditions right := by
    have values := agree.tableValues
    unfold HintContext.tableValuesFor at values
    rw [tableEvidence, tableEvidence, values]
  rw [select, select, database, own]

end TableRule

namespace Rule

/-! ## Tables that stand alone in a statement -/

/-- A statement contains no other member of the group of a table. -/
def StandsAlone (rule : Rule) (statement : Statement) (name : String) : Prop :=
  ∀ group ∈ rule.group? name, ∀ member ∈ statement.membersOf group, member = name

instance (rule : Rule) (statement : Statement) (name : String) :
    Decidable (rule.StandsAlone statement name) :=
  inferInstanceAs (Decidable (∀ group ∈ rule.group? name, _))

variable {rule : Rule} {statement : Statement} {hint : Option Hint} {name : String}

theorem StandsAlone.not_follows (grouped : rule.Grouped) (alone : rule.StandsAlone statement name) :
    ¬ ∃ primary, rule.Follows statement hint name primary := by
  rintro ⟨primary, chosen, different⟩
  obtain ⟨key, keyed, _⟩ := groupKey?_isSome_of_primary? chosen
  obtain ⟨group, found, _⟩ := Option.bind_eq_some_iff.mp keyed
  obtain ⟨groupMember, inside⟩ := group?_eq_some found
  rw [grouped.primary?_eq groupMember inside] at chosen
  rw [alone group found primary (mem_membersOf_of_leader? chosen)] at different
  exact different (Name.Same.refl name)

/-! ## Two routings -/

section

variable {left right : Statement} {leftHint rightHint : Option Hint}
  {leftEntry rightEntry : TableRoute}

theorem Leads.eq_of_agree (leftLeads : rule.Leads left leftHint name leftEntry)
    (rightLeads : rule.Leads right rightHint name rightEntry)
    (conditions : left.conditionsOn name = right.conditionsOn name)
    (agree : ∀ table ∈ rule.table? name,
      HintContext.AgreeOn leftHint rightHint table.logicTable) :
    leftEntry = rightEntry := by
  cases leftLeads with
  | broadcast broadcast =>
      cases rightLeads with
      | broadcast => rfl
      | default notBroadcast => simp [broadcast] at notBroadcast
      | sharded notBroadcast => simp [broadcast] at notBroadcast
  | default notBroadcast unruled declared =>
      cases rightLeads with
      | broadcast broadcast => simp [broadcast] at notBroadcast
      | default _ _ rightDeclared =>
          rw [declared] at rightDeclared
          cases rightDeclared
          rfl
      | sharded _ ruled => simp [unruled] at ruled
  | sharded notBroadcast ruled _ _ selected =>
      cases rightLeads with
      | broadcast broadcast => simp [broadcast] at notBroadcast
      | default _ unruled => simp [unruled] at ruled
      | sharded _ rightRuled _ _ rightSelected =>
          rw [ruled] at rightRuled
          cases rightRuled
          rw [conditions, TableRule.select_eq_of_agreeOn (agree _ ruled), rightSelected] at selected
          cases selected
          rfl

variable {catalog : Catalog} {expand : String → Except Error (List DataNode)} {file : RuleFile}
  {leftRoute rightRoute : Route}

/-- Outside its group a table is not influenced by others: if two statements agree on the
conditions on it, and their hints on what they say of it, it has the same nodes and the same source
in both routes. -/
theorem tables_are_separate (built : build catalog expand file = .ok rule)
    (leftFree : leftHint.bind (·.dataSource) = none)
    (rightFree : rightHint.bind (·.dataSource) = none)
    (leftNamed : name ∈ left.tableNames) (rightNamed : name ∈ right.tableNames)
    (conditions : left.conditionsOn name = right.conditionsOn name)
    (leftAlone : rule.StandsAlone left name) (rightAlone : rule.StandsAlone right name)
    (hints : HintContext.AgreeOn leftHint rightHint name)
    (leftRouted : rule.route left leftHint = .ok leftRoute)
    (rightRouted : rule.route right rightHint = .ok rightRoute) :
    ∃ entry, leftRoute.table? name = some entry ∧ rightRoute.table? name = some entry := by
  have isBuilt := isBuilt_of_build built
  obtain ⟨leftEntry, leftArrives, leftFound⟩ :=
    find?_of_arrives (arrives_of_route leftFree leftRouted) leftNamed
  obtain ⟨rightEntry, rightArrives, rightFound⟩ :=
    find?_of_arrives (arrives_of_route rightFree rightRouted) rightNamed
  have leftLeads := leftArrives.leads_of_not_follows (leftAlone.not_follows isBuilt.grouped)
  have rightLeads := rightArrives.leads_of_not_follows (rightAlone.not_follows isBuilt.grouped)
  have agree : ∀ table ∈ rule.table? name,
      HintContext.AgreeOn leftHint rightHint table.logicTable := by
    intro table ruled
    exact hints.of_same (isBuilt.same_logicTable ruled).symm
  cases leftLeads.eq_of_agree rightLeads conditions agree
  exact ⟨leftEntry, leftFound, rightFound⟩

end

private def goodsEntry (pattern : String) : TableEntry :=
  ⟨some pattern, none, some { standard := some ⟨some "id", "volume"⟩ }, none, none⟩

private def goodsFile : RuleFile where
  dataSources := ["ds_0", "ds_1"]
  defaultDataSource := some "ds_1"
  tables := .ofList
    [("t_item", goodsEntry "ds_0.i_$\x7b0..2\x7d"), ("t_order", goodsEntry "ds_0.o_$\x7b0..2\x7d"),
      ("t_stock", goodsEntry "ds_1.s_$\x7b0..2\x7d")]
  bindingTables := ["t_order, t_item"]
  algorithms := .ofList
    [("volume", ⟨"VOLUME_RANGE", .ofList
      [("range-lower", "0"), ("range-upper", "20"), ("sharding-volume", "20")]⟩)]

private def goodsWanted : Condition :=
  ⟨"t_item", [⟨"id", .equal (.int 12)⟩]⟩

private def goodsAlone : Statement :=
  ⟨["t_item"], [goodsWanted]⟩

private def goodsBeside : Statement :=
  ⟨["t_log"], [⟨"t_stock", []⟩, goodsWanted, ⟨"t_stock", [⟨"id", .equal (.int 3)⟩]⟩]⟩

/-- Another table is hinted, so that the conditions on it have no say. -/
private def goodsHint : Hint :=
  .ofChanges [.table "t_stock" (.int (-1)), .writeOnly]

private def goodsAloneRoute : Route where
  tables := [⟨"t_item", [⟨"ds_0", "i_1"⟩], .sharded⟩]

private def goodsBesideRoute : Route where
  tables :=
    [⟨"t_log", [⟨"ds_1", "t_log"⟩], .default⟩, ⟨"t_stock", [⟨"ds_1", "s_0"⟩], .sharded⟩,
      ⟨"t_item", [⟨"ds_0", "i_1"⟩], .sharded⟩]
  writeOnly := true

/-- The table is a member of a group of which neither statement names another one. -/
theorem item_is_separate :
    ∃ rule entry, build .builtin DataNode.expand goodsFile = .ok rule ∧
      rule.group? "t_item" = some ["t_order", "t_item"] ∧
      rule.route goodsAlone none = .ok goodsAloneRoute ∧
      rule.route goodsBeside (some goodsHint) = .ok goodsBesideRoute ∧
      goodsAloneRoute.table? "t_item" = some entry ∧
      goodsBesideRoute.table? "t_item" = some entry := by
  have run : (build .builtin DataNode.expand goodsFile >>= fun rule => pure (decide
      (rule.group? "t_item" = some ["t_order", "t_item"] ∧
        rule.StandsAlone goodsAlone "t_item" ∧ rule.StandsAlone goodsBeside "t_item" ∧
        rule.route goodsAlone none = .ok goodsAloneRoute ∧
        rule.route goodsBeside (some goodsHint) = .ok goodsBesideRoute))) = .ok true := by
    decide +kernel
  obtain ⟨rule, built, grouped, leftAlone, rightAlone, leftRouted, rightRouted⟩ :=
    exists_of_decided run
  have hints : HintContext.AgreeOn none (some goodsHint) "t_item" := by
    constructor <;> decide +kernel
  obtain ⟨entry, leftFound, rightFound⟩ := tables_are_separate built rfl rfl
    (by decide +kernel) (by decide +kernel) (by decide +kernel) leftAlone rightAlone hints
    leftRouted rightRouted
  exact ⟨rule, entry, built, grouped, leftRouted, rightRouted, leftFound, rightFound⟩

end Rule

end Sharding
