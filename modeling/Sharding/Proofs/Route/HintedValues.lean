import Sharding.Proofs.Hint.History
import Sharding.Proofs.Route.Audit
import Sharding.Proofs.Route.Lists

/-!
# Hinted values as conditions

For a table whose two strategies go by one column each, values from a hint do what predicates on
these columns would do: the statement with such predicates in place of its own ones on the columns
has the same route without the hint, or the same error.
-/

set_option autoImplicit false

namespace Sharding

/-! ## Values in a hint -/

namespace Hint

variable {hint : Hint} {table : String}

/-- The values that decide on the data source of a table: the one for every table while there is
only that, or else those for the table itself. -/
def sourceValues (hint : Hint) (table : String) : List Value :=
  if hint.databaseOnly then hint.unkeyedValues else hint.databaseValuesFor table

theorem sourceValues_congr {other : String} (same : Name.Same table other) :
    hint.sourceValues table = hint.sourceValues other := by
  rw [sourceValues, sourceValues, databaseValuesFor_congr same]

/-- If one value is to decide on the data source of every table, there is one. -/
def Settled (hint : Hint) : Prop :=
  hint.databaseOnly = true → hint.unkeyedValues ≠ []

theorem Settled.apply (settled : hint.Settled) (change : Change) :
    (hint.apply change).Settled := by
  intro only
  rw [databaseOnly_apply] at only
  cases change with
  | databaseOnly value => simp [Hint.apply, unkeyedValues]
  | database _ _ => cases only
  | table _ _ => cases only
  | clear => cases only
  | writeOnly => exact settled only
  | readWrite => exact settled only
  | dataSource _ => exact settled only

theorem Settled.foldl (settled : hint.Settled) (changes : List Change) :
    (changes.foldl Hint.apply hint).Settled := by
  induction changes generalizing hint with
  | nil => exact settled
  | cons change changes ih => exact ih (settled.apply change)

theorem settled_ofChanges (changes : List Change) : (ofChanges changes).Settled := by
  have initial : Settled {} := by
    intro only
    cases only
  exact initial.foldl changes

end Hint

/-! ## Single predicates on columns -/

namespace Condition

/-- The condition with a single predicate on a column, for given values if there are any. -/
def pin (condition : Condition) (column : String) (values : List Value) : Condition :=
  if values = [] then condition
  else
    { condition with
      columns := ⟨column, .among values⟩ ::
        condition.columns.filter fun entry => ¬ Name.Same entry.column column }

theorem table_pin (condition : Condition) (column : String) (values : List Value) :
    (condition.pin column values).table = condition.table := by
  unfold pin
  split <;> rfl

theorem predicate?_pin_of_ne (condition : Condition) {column other : String}
    (different : ¬ Name.Same column other) (values : List Value) :
    (condition.pin column values).predicate? other = condition.predicate? other := by
  unfold pin
  split
  next => rfl
  next =>
    simp only [predicate?, List.find?_cons, decide_eq_false different, List.find?_filter]
    congr 2
    funext entry
    by_cases same : Name.Same entry.column other
    · have notPinned : ¬ Name.Same entry.column column :=
        fun pinned => different (pinned.symm.trans same)
      simp [same, notPinned]
    · simp [same]

/-- Conditions that ask for the given values in a column, or for what they have asked before if
there are none. -/
def Asks (rewrite : Condition → Condition) (column : String) (values : List Value) : Prop :=
  ∀ condition, (rewrite condition).predicate? column =
    if values = [] then condition.predicate? column else some (.among values)

def pinBoth (column : String) (values : List Value) (other : String) (others : List Value)
    (condition : Condition) : Condition :=
  (condition.pin column values).pin other others

theorem asks_pin (column : String) (values : List Value) :
    Asks (fun condition => condition.pin column values) column values := by
  intro condition
  unfold pin
  split
  next => rfl
  next => simp [predicate?, Name.Same.refl]

section

variable {column other : String} {values others : List Value}

theorem table_pinBoth (condition : Condition) :
    (pinBoth column values other others condition).table = condition.table := by
  rw [pinBoth, table_pin, table_pin]

theorem asks_pinBoth_left (different : ¬ Name.Same column other) :
    Asks (pinBoth column values other others) column values := by
  intro condition
  rw [pinBoth, predicate?_pin_of_ne _ fun same => different same.symm]
  exact asks_pin column values condition

theorem asks_pinBoth_right (different : ¬ Name.Same column other) :
    Asks (pinBoth column values other others) other others := by
  intro condition
  rw [← predicate?_pin_of_ne condition different values]
  exact asks_pin other others (condition.pin column values)

end

end Condition

/-! ## Strategies -/

def Evidence.ofValues (conditions : List Condition) : List Value → Evidence
  | [] => .conditions conditions
  | values => .hinted values

/-- The conditions, or one that asks for nothing if there are none. -/
def orFree (table : String) : List Condition → List Condition
  | [] => [⟨table, []⟩]
  | conditions => conditions

namespace Strategy

variable {column algorithm table name : String} {placement : StandardPlacement}
  {candidates : List String} {values : List Value} {conditions : List Condition}

theorem exists_eq_standard {strategy : Strategy} (columns : strategy.columns = [column])
    (single : strategy.standard?.isSome = true) :
    ∃ algorithm placement, strategy = .standard column algorithm placement := by
  cases strategy with
  | standard own algorithm placement =>
      cases columns
      exact ⟨algorithm, placement, rfl⟩
  | complex _ _ _ => cases single
  | hint _ _ => cases single
  | unsharded => cases single

theorem select_hinted_eq (filled : conditions ≠ [])
    (asked : ∀ condition ∈ conditions, condition.predicate? column = some (.among values)) :
    (standard column algorithm placement).select table candidates (.hinted values) =
      (standard column algorithm placement).select table candidates (.conditions conditions) := by
  have each : ∀ condition ∈ conditions, selectColumn column placement candidates condition =
      (do return some (← placement.selectAmong candidates column values)) := by
    intro condition member
    rw [selectColumn, asked condition member]
    rfl
  refine Agree.eq (select_agrees_of_selected (fun _ _ same => congrArg _ same) ?_)
  rw [selected_conditions, selectBy_of_ne_nil filled]
  exact selectAny_agrees_of_forall filled each

theorem select_ofValues_eq {rewrite : Condition → Condition}
    (asks : Condition.Asks rewrite column values) :
    (standard column algorithm placement).select table candidates (.ofValues conditions values) =
      (standard column algorithm placement).select table candidates
        (.conditions ((orFree name conditions).map rewrite)) := by
  cases values with
  | nil =>
      cases conditions with
      | nil =>
          have silent : (rewrite ⟨name, []⟩).predicate? column = none := asks ⟨name, []⟩
          simp only [orFree, Evidence.ofValues, select, selected, selectBy, selectAny,
            selectColumn, List.map_cons, List.map_nil, silent]
          rfl
      | cons first rest =>
          have paired : List.Forall₂ (fun condition other =>
              (standard column algorithm placement).selectedBy candidates condition =
                (standard column algorithm placement).selectedBy candidates other)
              (first :: rest) ((first :: rest).map rewrite) := by
            refine List.forall₂_map_right_iff.mpr (List.forall₂_same.mpr ?_)
            intro condition _
            rw [selectedBy, selectedBy, selectColumn, selectColumn, asks condition, if_pos rfl]
          change select _ _ _ (.conditions (first :: rest)) =
            select _ _ _ (.conditions ((first :: rest).map rewrite))
          rw [select, select, selected_conditions, selected_conditions, selectBy_congr paired]
  | cons value values =>
      refine select_hinted_eq ?_ ?_
      · cases conditions <;> exact List.cons_ne_nil _ _
      · intro condition member
        obtain ⟨before, _, rfl⟩ := List.mem_map.mp member
        rw [asks before, if_neg (List.cons_ne_nil _ _)]

end Strategy

/-! ## Tables -/

namespace TableRule

variable {table : TableRule} {hint : Hint} {conditions others : List Condition}

theorem databaseEvidence_eq_ofValues (settled : hint.Settled) :
    table.databaseEvidence conditions (some hint) =
      .ofValues conditions (hint.sourceValues table.logicTable) := by
  cases only : hint.databaseOnly with
  | true =>
      obtain ⟨value, values, given⟩ := List.exists_cons_of_ne_nil (settled only)
      simp only [databaseEvidence, Hint.sourceValues, only, if_true, given, Evidence.ofValues]
  | false =>
      simp only [databaseEvidence, Hint.sourceValues, only, Bool.false_eq_true, if_false]
      cases hint.databaseValuesFor table.logicTable <;> rfl

theorem tableEvidence_eq_ofValues :
    table.tableEvidence conditions (some hint) =
      .ofValues conditions (hint.tableValuesFor table.logicTable) := by
  unfold tableEvidence
  rw [Option.map_some, Option.getD_some]
  cases hint.tableValuesFor table.logicTable <;> rfl

/-- A table that goes by one column for its data sources and by another one for its actual tables
selects by hinted values what it selects by conditions that ask for them. -/
theorem select_hint_eq {column other algorithm otherAlgorithm name : String}
    {placement otherPlacement : StandardPlacement} {rewrite : Condition → Condition}
    (database : table.databaseStrategy = .standard column algorithm placement)
    (own : table.tableStrategy = .standard other otherAlgorithm otherPlacement)
    (same : Name.Same table.logicTable name) (settled : hint.Settled)
    (asksSources : Condition.Asks rewrite column (hint.sourceValues name))
    (asksTables : Condition.Asks rewrite other (hint.tableValuesFor name)) :
    table.select conditions (some hint) =
      table.select ((orFree name conditions).map rewrite) none := by
  have sources : table.databaseStrategy.select table.logicTable table.dataSources
      (table.databaseEvidence conditions (some hint)) =
      table.databaseStrategy.select table.logicTable table.dataSources
        (table.databaseEvidence ((orFree name conditions).map rewrite) none) := by
    rw [databaseEvidence_eq_ofValues settled, database, Hint.sourceValues_congr same]
    exact Strategy.select_ofValues_eq asksSources
  have tables : table.selectOn (table.tableEvidence conditions (some hint)) =
      table.selectOn (table.tableEvidence ((orFree name conditions).map rewrite) none) := by
    funext dataSource
    rw [tableEvidence_eq_ofValues, selectOn, selectOn, own, Hint.tableValuesFor_congr same]
    exact congrArg (· >>= _) (Strategy.select_ofValues_eq asksTables)
  rw [select, select, sources, tables]

end TableRule

/-! ## Statements -/

namespace Statement

variable {statement : Statement} {name : String} {rewrite : Condition → Condition}

/-- The statement with its conditions rewritten, and with one more if there is none on a table. -/
def rewriteOn (statement : Statement) (name : String) (rewrite : Condition → Condition) :
    Statement where
  tables := statement.tables
  conditions :=
    (if statement.conditionsOn name = [] then statement.conditions ++ [⟨name, []⟩]
      else statement.conditions).map rewrite

theorem conditionsOn_rewriteOn (keeps : ∀ condition, (rewrite condition).table = condition.table) :
    (statement.rewriteOn name rewrite).conditionsOn name =
      (orFree name (statement.conditionsOn name)).map rewrite := by
  have applies : ∀ condition, (rewrite condition).AppliesTo name ↔ condition.AppliesTo name := by
    intro condition
    rw [Condition.AppliesTo, keeps condition]
    rfl
  have kept : (statement.rewriteOn name rewrite).conditionsOn name =
      ((if statement.conditionsOn name = [] then statement.conditions ++ [⟨name, []⟩]
        else statement.conditions).filter fun condition =>
          condition.AppliesTo name).map rewrite := by
    simp only [conditionsOn, rewriteOn, List.filter_map, Function.comp_def, applies]
  rw [kept]
  cases on : statement.conditionsOn name with
  | nil =>
      have free : Condition.AppliesTo ⟨name, []⟩ name := Name.Same.refl name
      rw [if_pos rfl, List.filter_append]
      change ((statement.conditionsOn name ++ _).map rewrite) = _
      rw [on, List.filter_singleton, decide_eq_true free]
      rfl
  | cons first rest =>
      rw [if_neg (List.cons_ne_nil _ _)]
      exact congrArg (List.map rewrite) on

theorem tableNames_rewriteOn (keeps : ∀ condition, (rewrite condition).table = condition.table)
    (alone : statement.tableNames = [name]) :
    (statement.rewriteOn name rewrite).tableNames = [name] := by
  have named : name ∈ statement.tableNames := alone ▸ List.mem_singleton_self name
  have tables : ∀ conditions : List Condition,
      (conditions.map rewrite).map (·.table) = conditions.map (·.table) := by
    intro conditions
    rw [List.map_map]
    exact List.map_congr_left fun condition _ => keeps condition
  rw [← alone]
  simp only [tableNames, rewriteOn, tables]
  split
  next =>
    have known := List.mem_of_find?_eq_some (mem_distinctNames_iff.mp named)
    rw [List.map_append, ← List.append_assoc, distinctNames_append, List.filter_eq_nil_iff.mpr,
      List.append_nil]
    intro other member fresh
    cases List.mem_singleton.mp member
    exact of_decide_eq_true fresh name known (Name.Same.refl name)
  next => rfl

end Statement

namespace Rule

variable {catalog : Catalog} {expand : String → Except Error (List DataNode)} {file : RuleFile}
  {rule : Rule} {statement : Statement} {name column other algorithm otherAlgorithm : String}
  {table : TableRule} {placement otherPlacement : StandardPlacement}

theorem IsBuilt.columns_apart (isBuilt : IsBuilt catalog expand file rule)
    (ruled : rule.table? name = some table)
    (database : table.databaseStrategy = .standard column algorithm placement)
    (own : table.tableStrategy = .standard other otherAlgorithm otherPlacement)
    (different : column ≠ other) : ¬ Name.Same column other := by
  obtain ⟨databaseDescribed, ownDescribed⟩ := isBuilt.described ruled
  rw [database] at databaseDescribed
  rw [own] at ownDescribed
  intro same
  have columnFolded := databaseDescribed.folded column (List.mem_singleton_self column)
  have otherFolded := ownDescribed.folded other (List.mem_singleton_self other)
  have folded : Name.fold column = Name.fold other := same
  rw [columnFolded, otherFolded] at folded
  exact different folded

theorem routeSharded_of_unforced {hint : Option Hint}
    (unforced : ∀ entry ∈ table.audit, entry.force = false) :
    rule.routeSharded statement hint name table = (do
      return ⟨name, ← table.select (statement.conditionsOn name) hint, .sharded⟩) := by
  have passed : ∀ conditioned hinted, rule.audit table conditioned hinted = .ok () := by
    intro conditioned hinted
    refine audit_eq_ok_iff.mpr fun entry given force => ?_
    rw [unforced entry given] at force
    cases force
  rw [routeSharded, passed]
  rfl

theorem tables_of_single (hint : Option Hint) (free : hint.bind (·.dataSource) = none)
    (alone : statement.tableNames = [name]) (notBroadcast : rule.isBroadcast name = false)
    (ruled : rule.table? name = some table)
    (unforced : ∀ entry ∈ table.audit, entry.force = false) :
    (rule.route statement hint).map (·.tables) = (do
      return [⟨name, ← table.select (statement.conditionsOn name) hint, .sharded⟩]) := by
  rw [route_of_single free alone notBroadcast ruled, routeSharded_of_unforced unforced]
  cases table.select (statement.conditionsOn name) hint <;> rfl

/-- A hint is another way to put conditions. Where both strategies of a table go by one column, a
statement on this table with a hint has the same route, or the same error, as the statement without
a hint that has single predicates for the hinted values in place of its own ones on these columns. A
column for which no values are hinted keeps its predicates. -/
theorem hinted_values_are_conditions (built : build catalog expand file = .ok rule)
    (ruled : rule.table? name = some table) (notBroadcast : rule.isBroadcast name = false)
    (unforced : ∀ entry ∈ table.audit, entry.force = false)
    (database : table.databaseStrategy = .standard column algorithm placement)
    (own : table.tableStrategy = .standard other otherAlgorithm otherPlacement)
    (different : column ≠ other) (alone : statement.tableNames = [name])
    (changes : List Hint.Change) (free : (Hint.ofChanges changes).dataSource = none) :
    (rule.route statement (some (.ofChanges changes))).map (·.tables) =
      (rule.route (statement.rewriteOn name
        (Condition.pinBoth column ((Hint.ofChanges changes).sourceValues name)
          other ((Hint.ofChanges changes).tableValuesFor name))) none).map (·.tables) := by
  have isBuilt := isBuilt_of_build built
  have same := isBuilt.same_logicTable ruled
  have apart := isBuilt.columns_apart ruled database own different
  rw [tables_of_single (some _) free alone notBroadcast ruled unforced,
    tables_of_single none rfl (Statement.tableNames_rewriteOn Condition.table_pinBoth alone)
      notBroadcast ruled unforced,
    Statement.conditionsOn_rewriteOn Condition.table_pinBoth,
    TableRule.select_hint_eq database own same (Hint.settled_ofChanges changes)
      (Condition.asks_pinBoth_left apart) (Condition.asks_pinBoth_right apart)]

private def billFile : RuleFile where
  dataSources := ["ds_0", "ds_1"]
  tables := .ofList
    [("t_bill", ⟨some "ds_$\x7b0..1\x7d.b_$\x7b0..2\x7d",
      some { standard := some ⟨some "user_id", "parity"⟩ },
      some { standard := some ⟨some "bill_id", "volume"⟩ }, none, none⟩)]
  algorithms := .ofList
    [("parity", ⟨"INLINE", .ofList [("algorithm-expression", "ds_$\x7buser_id % 2\x7d")]⟩),
      ("volume", ⟨"VOLUME_RANGE", .ofList
        [("range-lower", "0"), ("range-upper", "20"), ("sharding-volume", "20")]⟩)]

/-- Without a hint there is no table for the number of the bill. -/
private def billStatement : Statement where
  conditions := [⟨"t_bill", [⟨"bill_id", .equal (.text "draft")⟩, ⟨"user_id", .equal (.int 5)⟩]⟩]

private def billHint : List Hint.Change :=
  [.databaseOnly (.int 2), .table "t_bill" (.int 12), .table "t_bill" (.int (-1))]

private def billRewritten : Statement where
  conditions :=
    [⟨"t_bill", [⟨"bill_id", .among [.int 12, .int (-1)]⟩, ⟨"user_id", .equal (.int 5)⟩]⟩]

private def billRoute : Route where
  tables := [⟨"t_bill", [⟨"ds_1", "b_0"⟩, ⟨"ds_1", "b_1"⟩], .sharded⟩]

/-- The first value of the hint is forgotten, so the data source is that of the user. -/
theorem bill_hint_is_condition :
    ∃ rule, build .builtin DataNode.expand billFile = .ok rule ∧
      (∃ error, rule.route billStatement none = .error error) ∧
      rule.route billStatement (some (.ofChanges billHint)) = .ok billRoute ∧
      (rule.route billRewritten none).map (·.tables) = .ok billRoute.tables := by
  have run : (build .builtin DataNode.expand billFile >>= fun rule => pure (decide
      ((∃ table ∈ rule.table? "t_bill", table.audit = none ∧
          table.databaseStrategy.columns = ["user_id"] ∧
          table.databaseStrategy.standard?.isSome = true ∧
          table.tableStrategy.columns = ["bill_id"] ∧
          table.tableStrategy.standard?.isSome = true) ∧
        rule.isBroadcast "t_bill" = false ∧
        (∃ error, rule.route billStatement none = .error error) ∧
        rule.route billStatement (some (.ofChanges billHint)) = .ok billRoute))) = .ok true := by
    decide +kernel
  obtain ⟨rule, built, ⟨table, ruled, unaudited, column, sharded, other, split⟩, notBroadcast,
    refused, routed⟩ := exists_of_decided run
  have unforced : ∀ entry ∈ table.audit, entry.force = false := by
    rw [unaudited]
    exact nofun
  obtain ⟨_, _, database⟩ := Strategy.exists_eq_standard column sharded
  obtain ⟨_, _, own⟩ := Strategy.exists_eq_standard other split
  have rewritten : billStatement.rewriteOn "t_bill"
      (Condition.pinBoth "user_id" ((Hint.ofChanges billHint).sourceValues "t_bill")
        "bill_id" ((Hint.ofChanges billHint).tableValuesFor "t_bill")) = billRewritten := by
    decide +kernel
  have named : billStatement.tableNames = ["t_bill"] := by decide +kernel
  have same := hinted_values_are_conditions built ruled notBroadcast unforced database own
    (by decide +kernel) named billHint (by decide +kernel)
  rw [rewritten, routed] at same
  exact ⟨rule, built, refused, routed, same.symm⟩

end Rule

end Sharding
