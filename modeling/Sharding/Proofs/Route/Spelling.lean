import Sharding.Hint.Context
import Sharding.Proofs.Route.Agreement
import Sharding.Rule.Build

/-!
# Spellings

The case of names does not matter to routing. A statement and a hint that spell their tables and
columns otherwise are routed to the same nodes, or fail with an error of the same kind.
-/

set_option autoImplicit false

namespace Sharding

theorem distinctNames_same {lefts rights : List String}
    (paired : List.Forall₂ Name.Same lefts rights) :
    List.Forall₂ Name.Same (distinctNames lefts) (distinctNames rights) := by
  induction paired with
  | nil => exact .nil
  | @cons left right _ _ same _ ih =>
      refine .cons same (List.rel_filter (fun first second firstSame => ?_) ih)
      change decide _ = true ↔ decide _ = true
      rw [decide_eq_true_iff, decide_eq_true_iff]
      refine not_congr ⟨fun before => ?_, fun after => ?_⟩
      · exact firstSame.symm.trans (before.trans same)
      · exact firstSame.trans (after.trans same.symm)

/-! ## Conditions -/

structure ColumnPredicate.Respells (left right : ColumnPredicate) : Prop where
  column : Name.Same left.column right.column
  predicate : left.predicate = right.predicate

/-- A condition in other spellings of its table and its columns. -/
structure Condition.Respells (left right : Condition) : Prop where
  table : Name.Same left.table right.table
  columns : List.Forall₂ ColumnPredicate.Respells left.columns right.columns

namespace Condition.Respells

variable {left right : Condition} {lefts rights : List Condition}

theorem symm (respells : left.Respells right) : right.Respells left where
  table := respells.table.symm
  columns := respells.columns.flip.imp fun _ _ entry => ⟨entry.column.symm, entry.predicate.symm⟩

theorem predicate?_eq (respells : left.Respells right) (column : String) :
    left.predicate? column = right.predicate? column := by
  unfold predicate?
  have found : Option.Rel ColumnPredicate.Respells
      (left.columns.find? fun entry => Name.Same entry.column column)
      (right.columns.find? fun entry => Name.Same entry.column column) :=
    find?_forall₂ respells.columns fun _ _ entry => decide_eq_decide.mpr
      ⟨fun before => entry.column.symm.trans before, fun after => entry.column.trans after⟩
  generalize left.columns.find? _ = first at found ⊢
  generalize right.columns.find? _ = second at found ⊢
  cases found with
  | none => rfl
  | some entry => exact congrArg some entry.predicate

theorem conditioned {table : TableRule} (paired : List.Forall₂ Condition.Respells lefts rights)
    (conditioned : table.Conditioned lefts) : table.Conditioned rights := by
  obtain ⟨condition, member, entry, entryMember, column, own, same⟩ := conditioned
  obtain ⟨other, otherMember, respells⟩ := exists_right_of_mem paired member
  obtain ⟨otherEntry, otherEntryMember, respelled⟩ :=
    exists_right_of_mem respells.columns entryMember
  exact ⟨other, otherMember, otherEntry, otherEntryMember, column, own,
    same.trans respelled.column⟩

theorem conditioned_iff {table : TableRule}
    (paired : List.Forall₂ Condition.Respells lefts rights) :
    table.Conditioned lefts ↔ table.Conditioned rights :=
  ⟨conditioned paired, conditioned (paired.flip.imp fun _ _ respells => respells.symm)⟩

end Condition.Respells

theorem Strategy.select_congr {strategy : Strategy} {table : String} {candidates : List String}
    {lefts rights : List Condition}
    (paired : List.Forall₂
      (fun left right => ∀ column, left.predicate? column = right.predicate? column)
      lefts rights) :
    strategy.select table candidates (.conditions lefts) =
      strategy.select table candidates (.conditions rights) := by
  have each : ∀ left right : Condition,
      (∀ column, left.predicate? column = right.predicate? column) →
      strategy.selectedBy candidates left = strategy.selectedBy candidates right := by
    intro left right same
    cases strategy with
    | unsharded => rfl
    | hint algorithm placement => rfl
    | standard column algorithm placement =>
        rw [selectedBy, selectedBy, selectColumn, selectColumn, same]
    | complex columns algorithm placement =>
        have predicates : left.predicates columns = right.predicates columns := by
          simp only [Condition.predicates, same]
        rw [selectedBy, selectedBy, selectColumns, selectColumns, predicates]
  rw [select, select, selected_conditions, selected_conditions, selectBy_congr (paired.imp each)]

/-! ## Statements -/

/-- A statement in other spellings of its tables and of the columns of its conditions. -/
structure Statement.Respells (left right : Statement) : Prop where
  tables : List.Forall₂ Name.Same left.tables right.tables
  conditions : List.Forall₂ Condition.Respells left.conditions right.conditions

namespace Statement.Respells

variable {left right : Statement}

theorem tableNames (respells : left.Respells right) :
    List.Forall₂ Name.Same left.tableNames right.tableNames := by
  refine distinctNames_same (List.rel_append respells.tables ?_)
  exact List.forall₂_map_left_iff.mpr (List.forall₂_map_right_iff.mpr
    (respells.conditions.imp fun _ _ condition => condition.table))

theorem conditionsOn (respells : left.Respells right) (name : String) :
    List.Forall₂ Condition.Respells (left.conditionsOn name) (right.conditionsOn name) := by
  refine List.rel_filter (fun first second condition => ?_) respells.conditions
  change decide _ = true ↔ decide _ = true
  rw [decide_eq_true_iff, decide_eq_true_iff]
  exact ⟨fun before => condition.table.symm.trans before,
    fun after => condition.table.trans after⟩

end Statement.Respells

/-! ## Hints -/

/-- A change of a hint that may spell its table otherwise. -/
inductive Hint.Change.Respells : Hint.Change → Hint.Change → Prop where
  | same (change : Hint.Change) : Respells change change
  | database {left right : String} (value : Value) (same : Name.Same left right) :
      Respells (.database left value) (.database right value)
  | table {left right : String} (value : Value) (same : Name.Same left right) :
      Respells (.table left value) (.table right value)

theorem Hint.apply_eq_of_respells {left right : Hint.Change} (respells : left.Respells right)
    (hint : Hint) : hint.apply left = hint.apply right := by
  cases respells with
  | same => rfl
  | @database left right value same =>
      have key : Name.fold left = Name.fold right := same
      simp only [Hint.apply, Hint.append, key]
  | @table left right value same =>
      have key : Name.fold left = Name.fold right := same
      simp only [Hint.apply, Hint.append, key]

inductive HintContext.Operation.Respells :
    HintContext.Operation → HintContext.Operation → Prop where
  | same (operation : HintContext.Operation) : Respells operation operation
  | change {left right : Hint.Change} (respells : left.Respells right) :
      Respells (.change left) (.change right)

namespace HintContext

theorem perform_eq_of_respells {left right : Operation} (respells : left.Respells right)
    (context : HintContext) : context.perform left = context.perform right := by
  cases respells with
  | same => rfl
  | change respells =>
      simp only [perform, HintContext.change, Hint.apply_eq_of_respells respells]

/-- Hints do not keep how the tables were spelled that they were given for. -/
theorem run_eq_of_respells {lefts rights : List Operation}
    (paired : List.Forall₂ Operation.Respells lefts rights) (context : HintContext) :
    context.run lefts = context.run rights := by
  induction paired generalizing context with
  | nil => rfl
  | cons respells _ ih =>
      simp only [run, List.foldl_cons, perform_eq_of_respells respells] at ih ⊢
      exact ih _

end HintContext

/-! ## Routes -/

/-- Entries of one table and one kind. What the rule itself selects is the same; only nodes that
are named after the table in the statement may be spelled otherwise. -/
structure TableRoute.Respells (left right : TableRoute) : Prop where
  table : Name.Same left.table right.table
  kind : left.source.kind = right.source.kind
  nodes : (left.source = .sharded ∨ ∃ primary, left.source = .binding primary) →
    left.nodes = right.nodes

/-- Names may differ in case, and errors in the names that they hold. -/
def Leeway.spelling : Leeway where
  spelled := Name.Same
  errors left right := left.kind = right.kind
  torn := False
  same alike := alike
  refl _ := rfl
  mismatch _ _ := rfl
  noDefault _ := rfl

theorem Leeway.respells_of_entries {rule : Rule} {left right : TableRoute}
    (entries : Leeway.spelling.Entries rule left right) : left.Respells right := by
  cases entries with
  | sharded names => exact ⟨names, rfl, fun _ => rfl⟩
  | binding names _ => exact ⟨names, rfl, fun _ => rfl⟩
  | broadcast names => exact ⟨names, rfl, fun routed => by simp at routed⟩
  | default names => exact ⟨names, rfl, fun routed => by simp at routed⟩
  | hinted names => exact ⟨names, rfl, fun routed => by simp at routed⟩

namespace Rule

variable {rule : Rule} {left right : Statement}

theorem alike_of_respells (respells : left.Respells right) (hint : Option Hint) :
    rule.Alike .spelling left right hint hint where
  named := respells.tableNames
  sources := rfl
  conditioned name _ := by
    unfold IsConditioned
    simp only [Condition.Respells.conditioned_iff (respells.conditionsOn name)]
  hinted _ _ := Iff.rfl
  selected name table _ := by
    have predicates := (respells.conditionsOn name).imp
      fun _ _ condition => condition.predicate?_eq
    exact TableRule.select_agrees Leeway.spelling.refl
      (fun _ => .of_eq Leeway.spelling.refl (Strategy.select_congr predicates))
      fun _ _ _ _ _ => .of_eq Leeway.spelling.refl (Strategy.select_congr predicates)

/-- Routing does not depend on the case of names: for statements and hints that differ in nothing
else, either both fail with errors of one kind, or both succeed with the same entries. -/
theorem route_of_respelled (rule : Rule) {operations others : List HintContext.Operation}
    (respells : left.Respells right)
    (hints : List.Forall₂ HintContext.Operation.Respells operations others) :
    (∃ leftRoute rightRoute,
      rule.route left (HintContext.run none operations) = .ok leftRoute ∧
      rule.route right (HintContext.run none others) = .ok rightRoute ∧
      List.Forall₂ TableRoute.Respells leftRoute.tables rightRoute.tables ∧
      leftRoute.writeOnly = rightRoute.writeOnly) ∨
    ∃ leftError rightError,
      rule.route left (HintContext.run none operations) = .error leftError ∧
      rule.route right (HintContext.run none others) = .error rightError ∧
      leftError.kind = rightError.kind := by
  rw [← HintContext.run_eq_of_respells hints]
  generalize HintContext.run none operations = hint
  have agree : Leeway.spelling.Agree
      (fun leftRoute rightRoute =>
        List.Forall₂ TableRoute.Respells leftRoute.tables rightRoute.tables ∧
          leftRoute.writeOnly = rightRoute.writeOnly)
      (rule.route left hint) (rule.route right hint) := by
    refine (alike_of_respells respells hint).route.imp fun _ _ leftRouted rightRouted entries => ?_
    exact ⟨entries.imp fun _ _ => Leeway.respells_of_entries,
      (writeOnly_of_route leftRouted).trans (writeOnly_of_route rightRouted).symm⟩
  generalize rule.route left hint = first at agree ⊢
  generalize rule.route right hint = second at agree ⊢
  cases agree with
  | ok related => exact .inl ⟨_, _, rfl, rfl, related⟩
  | error related => exact .inr ⟨_, _, rfl, rfl, related⟩
  | left parted _ _ => exact parted.elim
  | right parted _ _ => exact parted.elim

private def storeEntry (pattern : String) : TableEntry :=
  ⟨some pattern, none, some { standard := some ⟨some "order_id", "volume"⟩ }, none, none⟩

/-- A group of two tables and a broadcast table. -/
private def storeFile : RuleFile where
  dataSources := ["ds"]
  tables := .ofList
    [("t_item", storeEntry "ds.i_$\x7b0..2\x7d"), ("t_order", storeEntry "ds.o_$\x7b0..2\x7d")]
  bindingTables := ["t_order, t_item"]
  broadcastTables := ["t_country"]
  algorithms := .ofList
    [("volume", ⟨"VOLUME_RANGE", .ofList
      [("range-lower", "0"), ("range-upper", "20"), ("sharding-volume", "20")]⟩)]

private def storeStatement : Statement where
  tables := ["t_country", "t_item"]
  conditions := [⟨"t_order", [⟨"order_id", .equal (.int 12)⟩]⟩]

private def storeRespelled : Statement where
  tables := ["T_Country", "T_ITEM"]
  conditions := [⟨"T_Order", [⟨"Order_ID", .equal (.int 12)⟩]⟩]

private def storeHints (table : String) : List HintContext.Operation :=
  [.acquire, .change (.table table (.int (-1))), .change .writeOnly]

private theorem storeStatement_respells : storeStatement.Respells storeRespelled := by
  have country : Name.Same "t_country" "T_Country" := by
    simp [Name.Same, Name.fold, ← String.toList_inj]
  have item : Name.Same "t_item" "T_ITEM" := by
    simp [Name.Same, Name.fold, ← String.toList_inj]
  have order : Name.Same "t_order" "T_Order" := by
    simp [Name.Same, Name.fold, ← String.toList_inj]
  have column : Name.Same "order_id" "Order_ID" := by
    simp [Name.Same, Name.fold, ← String.toList_inj]
  exact ⟨.cons country (.cons item .nil), .cons ⟨order, .cons ⟨column, rfl⟩ .nil⟩ .nil⟩

private theorem storeHints_respell :
    List.Forall₂ HintContext.Operation.Respells (storeHints "t_item") (storeHints "T_Item") := by
  have item : Name.Same "t_item" "T_Item" := by
    simp [Name.Same, Name.fold, ← String.toList_inj]
  exact .cons (.same _) (.cons (.change (.table _ item)) (.cons (.same _) .nil))

private def storeRoute : Route where
  tables :=
    [⟨"t_country", [⟨"ds", "t_country"⟩], .broadcast⟩,
      ⟨"t_item", [⟨"ds", "i_0"⟩], .sharded⟩,
      ⟨"t_order", [⟨"ds", "o_0"⟩], .binding "t_item"⟩]
  writeOnly := true

/-- The hint reaches the first member of the group, in any spelling. -/
theorem store_route_of_respelled :
    storeStatement.Respells storeRespelled ∧
    List.Forall₂ HintContext.Operation.Respells (storeHints "t_item") (storeHints "T_Item") ∧
    ∃ rule route, build .builtin DataNode.expand storeFile = .ok rule ∧
      rule.route storeStatement (HintContext.run none (storeHints "t_item")) = .ok storeRoute ∧
      rule.route storeRespelled (HintContext.run none (storeHints "T_Item")) = .ok route ∧
      List.Forall₂ TableRoute.Respells storeRoute.tables route.tables ∧ route.writeOnly = true := by
  have run : (build .builtin DataNode.expand storeFile >>= fun rule =>
      rule.route storeStatement (HintContext.run none (storeHints "t_item"))) = .ok storeRoute := by
    decide +kernel
  obtain ⟨rule, built, routed⟩ := bind_eq_ok.mp run
  refine ⟨storeStatement_respells, storeHints_respell, rule, ?_⟩
  rcases route_of_respelled rule storeStatement_respells storeHints_respell with
    ⟨_, route, leftRouted, rightRouted, tables, writeOnly⟩ | ⟨_, _, failed, _⟩
  · rw [routed] at leftRouted
    cases leftRouted
    exact ⟨route, built, routed, rightRouted, tables, writeOnly.symm⟩
  · rw [routed] at failed
    cases failed

end Rule

end Sharding
