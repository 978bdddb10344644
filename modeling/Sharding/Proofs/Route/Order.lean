import Sharding.Proofs.Route.Agreement
import Sharding.Proofs.Route.Alternatives

/-!
# The order of alternatives

Alternatives are looked at one after the other, up to the first that leaves the choice open. So
their order decides nothing but whether an alternative that cannot be evaluated is looked at: what
a statement is routed to does not depend on it, and whether it is routed at all depends on it only
if one strategy is given an open alternative beside one that it refuses.
-/

set_option autoImplicit false

namespace Sharding

variable {lefts rights conditions : List Condition} {condition : Condition}

/-! ## Strategies -/

/-- Alternatives that are all evaluated select the same names in any order. -/
theorem selectAny_agrees_of_perm {select : Condition → Except Error (Option (List String))}
    (perm : lefts.Perm rights) :
    Agree ((∃ condition ∈ lefts, select condition = .ok none) ∧
        ∃ condition ∈ lefts, ∃ error, select condition = .error error)
      (fun _ _ => True) SelectsSame (selectAny select lefts) (selectAny select rights) := by
  have evaluated : ∀ {items : List Condition} {names : List String},
      selectAny select items = .ok (some names) →
      ∀ condition ∈ items,
        select condition ≠ .ok none ∧ ∀ error, select condition ≠ .error error := by
    intro items names selected condition member
    obtain ⟨own, ownSelected, _⟩ := selectAny_eq_some selected condition member
    rw [ownSelected]
    exact ⟨nofun, fun _ => nofun⟩
  -- Each walk ends at a refused alternative, at an open one or behind the last. Two that do not end
  -- alike have an open and a refused one between them, or one has passed where the other ends.
  rcases first : selectAny select lefts with error | _ | names
  · obtain ⟨failing, failingMember, fails⟩ := exists_of_selectAny_eq_error first
    rcases second : selectAny select rights with other | _ | others
    · exact .error trivial
    · obtain ⟨opening, openingMember, opens⟩ := exists_of_selectAny_eq_none second
      exact .left ⟨⟨opening, perm.mem_iff.mpr openingMember, opens⟩,
        ⟨failing, failingMember, error, fails⟩⟩ _ _
    · exact absurd fails ((evaluated second failing (perm.mem_iff.mp failingMember)).2 error)
  · obtain ⟨opening, openingMember, opens⟩ := exists_of_selectAny_eq_none first
    rcases second : selectAny select rights with other | _ | others
    · obtain ⟨failing, failingMember, fails⟩ := exists_of_selectAny_eq_error second
      exact .right ⟨⟨opening, openingMember, opens⟩,
        ⟨failing, perm.mem_iff.mpr failingMember, other, fails⟩⟩ _ _
    · exact .ok .none
    · exact absurd opens (evaluated second opening (perm.mem_iff.mp openingMember)).1
  · rcases second : selectAny select rights with other | _ | others
    · obtain ⟨failing, failingMember, fails⟩ := exists_of_selectAny_eq_error second
      exact absurd fails ((evaluated first failing (perm.mem_iff.mpr failingMember)).2 other)
    · obtain ⟨opening, openingMember, opens⟩ := exists_of_selectAny_eq_none second
      exact absurd opens (evaluated first opening (perm.mem_iff.mpr openingMember)).1
    · refine .ok (.some fun name => ?_)
      rw [mem_selectAny_iff first, mem_selectAny_iff second]
      simp only [perm.mem_iff]

theorem Condition.predicate?_eq_none_of_isEmpty {columns : List String} {column : String}
    (nothing : (condition.predicates columns).isEmpty = true) (own : column ∈ columns) :
    condition.predicate? column = none := by
  have absent := condition.get?_predicates columns column
  rw [NameMap.isEmpty_iff.mp nothing, if_pos own] at absent
  exact absent.symm

namespace Strategy

variable {strategy : Strategy} {table : String} {candidates : List String}

/-- A condition says nothing about the columns of a strategy, so it selects every candidate. -/
def LeavesOpen (strategy : Strategy) (condition : Condition) : Prop :=
  ∀ column ∈ strategy.columns, condition.predicate? column = none

instance (strategy : Strategy) (condition : Condition) :
    Decidable (strategy.LeavesOpen condition) :=
  inferInstanceAs (Decidable (∀ column ∈ _, _))

/-- A strategy fails on a condition alone. -/
def Refuses (strategy : Strategy) (table : String) (candidates : List String)
    (condition : Condition) : Prop :=
  ∃ error, strategy.select table candidates (.conditions [condition]) = .error error

instance (strategy : Strategy) (table : String) (candidates : List String)
    (condition : Condition) : Decidable (strategy.Refuses table candidates condition) :=
  inferInstanceAs (Decidable (∃ error, strategy.select _ _ _ = Except.error error))

/-- One alternative leaves the choice open and another one is refused: which of them comes first
decides whether the strategy fails. -/
def Torn (strategy : Strategy) (table : String) (candidates : List String) : Evidence → Prop
  | .hinted _ => False
  | .conditions alternatives =>
    (∃ condition ∈ alternatives, strategy.LeavesOpen condition) ∧
      ∃ condition ∈ alternatives, strategy.Refuses table candidates condition

instance (strategy : Strategy) (table : String) (candidates : List String) (evidence : Evidence) :
    Decidable (strategy.Torn table candidates evidence) :=
  match evidence with
  | .hinted _ => inferInstanceAs (Decidable False)
  | .conditions alternatives =>
    inferInstanceAs (Decidable ((∃ condition ∈ alternatives, strategy.LeavesOpen condition) ∧
      ∃ condition ∈ alternatives, strategy.Refuses table candidates condition))

theorem leavesOpen_of_selectedBy (opens : strategy.selectedBy candidates condition = .ok none) :
    strategy.LeavesOpen condition := by
  intro column own
  cases strategy with
  | unsharded => cases own
  | hint algorithm placement => cases own
  | standard key algorithm placement =>
      cases List.mem_singleton.mp own
      rw [selectedBy, selectColumn] at opens
      cases found : condition.predicate? column with
      | none => rfl
      | some predicate =>
          simp only [found, bind_eq_ok, pure_eq_ok] at opens
          obtain ⟨_, _, chosen⟩ := opens
          cases chosen
  | complex columns algorithm placement =>
      rw [selectedBy, selectColumns] at opens
      split at opens
      next nothing => exact Condition.predicate?_eq_none_of_isEmpty nothing own
      next =>
        simp only [bind_eq_ok, pure_eq_ok] at opens
        obtain ⟨_, _, chosen⟩ := opens
        cases chosen

theorem refuses_iff : strategy.Refuses table candidates condition ↔
    ∃ error, strategy.selectedBy candidates condition = .error error := by
  unfold Refuses
  rw [select, selected_conditions, selectBy_of_ne_nil (List.cons_ne_nil _ _), selectAny_cons]
  rcases strategy.selectedBy candidates condition with error | _ | names <;>
    simp [unite, selectAny]

theorem refuses_of_torn {evidence : List Condition → Evidence}
    (kind : (∃ values, ∀ others, evidence others = .hinted values) ∨
      ∀ others, evidence others = .conditions others)
    (torn : strategy.Torn table candidates (evidence conditions)) :
    (∀ others, evidence others = .conditions others) ∧
      ∃ condition ∈ conditions, strategy.Refuses table candidates condition := by
  rcases kind with ⟨values, hinted⟩ | conditioned
  · rw [hinted] at torn
    exact torn.elim
  · rw [conditioned] at torn
    exact ⟨conditioned, torn.2⟩

theorem select_agrees_of_perm (perm : lefts.Perm rights) :
    Agree (strategy.Torn table candidates (.conditions lefts)) (fun _ _ => True) Eq
      (strategy.select table candidates (.conditions lefts))
      (strategy.select table candidates (.conditions rights)) := by
  refine select_agrees (fun _ _ _ => trivial) ?_
  rcases eq_or_ne lefts [] with rfl | filled
  · rw [perm.nil_eq.symm]
    exact .ok .none
  · have othersFilled : rights ≠ [] := by
      rintro rfl
      exact filled perm.eq_nil
    rw [selectBy_of_ne_nil filled, selectBy_of_ne_nil othersFilled]
    refine (selectAny_agrees_of_perm perm).mono fun torn => ?_
    obtain ⟨⟨opening, openingMember, opens⟩, failing, failingMember, _, fails⟩ := torn
    exact ⟨⟨opening, openingMember, leavesOpen_of_selectedBy opens⟩,
      failing, failingMember, refuses_iff.mpr ⟨_, fails⟩⟩

theorem exists_select_eq_error (refuses : strategy.Refuses table candidates condition)
    (rest : List Condition) :
    ∃ error, strategy.select table candidates (.conditions (condition :: rest)) =
      .error error := by
  obtain ⟨error, fails⟩ := refuses_iff.mp refuses
  refine ⟨mismatch table error, ?_⟩
  rw [select, selected_conditions, selectBy_of_ne_nil (List.cons_ne_nil _ _), selectAny_cons, fails]
  rfl

end Strategy

/-! ## Tables -/

namespace TableRule

variable {table : TableRule} {hint : Option Hint}

/-- One of the strategies of a table is torn by the conditions, on the data sources or on the actual
tables of a data source that is selected. -/
def Torn (table : TableRule) (conditions : List Condition) (hint : Option Hint) : Prop :=
  table.databaseStrategy.Torn table.logicTable table.dataSources
      (table.databaseEvidence conditions hint) ∨
    ∃ chosen, table.databaseStrategy.select table.logicTable table.dataSources
        (table.databaseEvidence conditions hint) = .ok chosen ∧
      ∃ dataSource ∈ chosen, table.tableStrategy.Torn table.logicTable
        (table.actualTables dataSource) (table.tableEvidence conditions hint)

instance (table : TableRule) (conditions : List Condition) (hint : Option Hint) :
    Decidable (table.Torn conditions hint) :=
  inferInstanceAs (Decidable (_ ∨ ∃ chosen, _ ∧ ∃ dataSource ∈ chosen, _))

theorem select_agrees_of_perm (perm : lefts.Perm rights) :
    Agree (table.Torn lefts hint) (fun _ _ => True) Eq (table.select lefts hint)
      (table.select rights hint) := by
  refine select_agrees (fun _ => trivial) (fun conditioned => ?_)
    fun conditioned chosen selected dataSource member => ?_
  · refine (Strategy.select_agrees_of_perm perm).mono fun torn => .inl ?_
    rw [conditioned]
    exact torn
  · refine (Strategy.select_agrees_of_perm perm).mono fun torn => .inr ⟨chosen, selected, ?_⟩
    rw [conditioned]
    exact ⟨dataSource, member, torn⟩

theorem dataSources_eq_of_perm {leftChosen rightChosen : List String} (perm : lefts.Perm rights)
    (leftSelected : table.databaseStrategy.select table.logicTable table.dataSources
      (table.databaseEvidence lefts hint) = .ok leftChosen)
    (rightSelected : table.databaseStrategy.select table.logicTable table.dataSources
      (table.databaseEvidence rights hint) = .ok rightChosen) : leftChosen = rightChosen := by
  have agree : Agree (table.databaseStrategy.Torn table.logicTable table.dataSources
      (.conditions lefts)) (fun _ _ : Error => True) Eq (.ok leftChosen) (.ok rightChosen) := by
    rw [← leftSelected, ← rightSelected]
    exact Strategy.select_agrees_of_evidence (fun _ => trivial) (table.databaseEvidence_eq hint)
      fun _ => Strategy.select_agrees_of_perm perm
  exact agree.related

/-- Some alternative is refused wherever it comes first. -/
theorem Torn.exists_refused (torn : table.Torn conditions hint) :
    ∃ condition ∈ conditions, ∀ rest nodes, conditions.Perm (condition :: rest) →
      table.select (condition :: rest) hint ≠ .ok nodes := by
  rcases torn with torn | ⟨chosen, selected, dataSource, member, torn⟩
  · obtain ⟨conditioned, condition, conditionMember, refuses⟩ :=
      Strategy.refuses_of_torn (table.databaseEvidence_eq hint) torn
    refine ⟨condition, conditionMember, fun rest nodes _ routed => ?_⟩
    obtain ⟨_, _, _, sourcesSelected, _⟩ := select_eq_ok routed
    obtain ⟨_, failed⟩ := Strategy.exists_select_eq_error refuses rest
    rw [conditioned, failed] at sourcesSelected
    cases sourcesSelected
  · obtain ⟨conditioned, condition, conditionMember, refuses⟩ :=
      Strategy.refuses_of_torn (table.tableEvidence_eq hint) torn
    refine ⟨condition, conditionMember, fun rest nodes perm routed => ?_⟩
    obtain ⟨_, _, _, sourcesSelected, walked, _⟩ := select_eq_ok routed
    cases dataSources_eq_of_perm perm selected sourcesSelected
    obtain ⟨_, _, walkedOn⟩ := exists_right_of_mem walked member
    obtain ⟨_, failed⟩ := Strategy.exists_select_eq_error refuses rest
    simp only [selectOn, conditioned, failed, bind_eq_ok] at walkedOn
    obtain ⟨_, walkedOn, _⟩ := walkedOn
    cases walkedOn

end TableRule

/-! ## Statements -/

namespace Rule

variable {rule : Rule} {tables : List String} {others : List Condition} {hint : Option Hint}

/-- A table that is routed by its own strategies is torn by its conditions. -/
def Torn (rule : Rule) (statement : Statement) (hint : Option Hint) : Prop :=
  ∃ name table, rule.Chooses statement hint name table ∧
    table.Torn (statement.conditionsOn name) hint

theorem tableNames_of_listed
    (listed : ∀ condition ∈ conditions, ∃ table ∈ tables, condition.AppliesTo table) :
    Statement.tableNames ⟨tables, conditions⟩ = distinctNames tables := by
  unfold Statement.tableNames
  rw [distinctNames_append, List.filter_eq_nil_iff.mpr, List.append_nil]
  intro name member known
  have spelled := List.mem_of_find?_eq_some (mem_distinctNames_iff.mp member)
  obtain ⟨condition, conditionMember, rfl⟩ := List.mem_map.mp spelled
  obtain ⟨table, tableMember, applies⟩ := listed condition conditionMember
  exact of_decide_eq_true known table tableMember applies

theorem alike_of_perm (rule : Rule)
    (listed : ∀ condition ∈ conditions, ∃ table ∈ tables, condition.AppliesTo table)
    (perm : conditions.Perm others) (hint : Option Hint) :
    rule.Alike (.sameNames (fun _ _ => True) (rule.Torn ⟨tables, conditions⟩ hint)
      fun _ => trivial) ⟨tables, conditions⟩ ⟨tables, others⟩ hint hint where
  named := by
    have listedToo : ∀ condition ∈ others, ∃ table ∈ tables, condition.AppliesTo table :=
      fun condition member => listed condition (perm.mem_iff.mpr member)
    rw [tableNames_of_listed listed, tableNames_of_listed listedToo]
    change List.Forall₂ Eq _ _
    rw [List.forall₂_eq_eq_eq]
  sources := rfl
  conditioned name _ := by
    simp only [IsConditioned, TableRule.Conditioned, Statement.conditionsOn, List.mem_filter,
      perm.mem_iff]
  hinted _ _ := Iff.rfl
  selected name table chooses :=
    (TableRule.select_agrees_of_perm (perm.filter _)).mono fun torn =>
      ⟨name, table, chooses, torn⟩

theorem Torn.exists_perm
    (listed : ∀ condition ∈ conditions, ∃ table ∈ tables, condition.AppliesTo table)
    (torn : rule.Torn ⟨tables, conditions⟩ hint) :
    ∃ reordered, conditions.Perm reordered ∧
      ∃ error, rule.route ⟨tables, reordered⟩ hint = .error error := by
  obtain ⟨name, table, chooses, torn⟩ := torn
  obtain ⟨condition, member, refused⟩ := torn.exists_refused
  obtain ⟨member, applies⟩ := List.mem_filter.mp member
  have perm := List.perm_cons_erase member
  refine ⟨condition :: conditions.erase condition, perm, ?_⟩
  cases routed : rule.route ⟨tables, condition :: conditions.erase condition⟩ hint with
  | error error => exact ⟨error, rfl⟩
  | ok route =>
      have alike := alike_of_perm rule listed perm hint
      have named := chooses.named
      rw [alike.tableNames_eq] at named
      obtain ⟨nodes, selected⟩ := (alike.chooses chooses named rfl).select_eq_ok routed
      have reordered := perm.filter fun condition => decide (condition.AppliesTo name)
      simp only [Statement.conditionsOn, List.filter_cons, applies, if_true] at reordered selected
      exact absurd selected (refused _ nodes reordered)

/-- The order of alternatives has no influence on where a statement is routed. A statement that is
routed in one order is routed in every other one unless its conditions tear a table: then it is not
routed in some order, in which a refused alternative comes before any open one. -/
theorem route_of_reordered
    (listed : ∀ condition ∈ conditions, ∃ table ∈ tables, condition.AppliesTo table)
    (perm : conditions.Perm others) :
    (∀ first second, rule.route ⟨tables, conditions⟩ hint = .ok first →
      rule.route ⟨tables, others⟩ hint = .ok second → first = second) ∧
    (¬ rule.Torn ⟨tables, conditions⟩ hint → ∀ route,
      rule.route ⟨tables, conditions⟩ hint = .ok route ↔
        rule.route ⟨tables, others⟩ hint = .ok route) ∧
    (rule.Torn ⟨tables, conditions⟩ hint → ∃ reordered, conditions.Perm reordered ∧
      ∃ error, rule.route ⟨tables, reordered⟩ hint = .error error) := by
  have agree := (alike_of_perm rule listed perm hint).route_eq
  refine ⟨fun first second firstRouted secondRouted => ?_, fun whole route => ?_,
    Torn.exists_perm listed⟩
  · rw [firstRouted, secondRouted] at agree
    exact agree.related
  · generalize rule.route ⟨tables, conditions⟩ hint = first at agree ⊢
    generalize rule.route ⟨tables, others⟩ hint = second at agree ⊢
    cases agree with
    | ok same => rw [same]
    | error _ => simp
    | left torn _ _ => exact absurd torn whole
    | right torn _ _ => exact absurd torn whole

private def salesFile : RuleFile where
  dataSources := ["ds"]
  tables := .ofList
    [("t_order", ⟨some "ds.o_$\x7b0..2\x7d", none,
      some { standard := some ⟨some "order_id", "volume"⟩ }, none, none⟩)]
  algorithms := .ofList
    [("volume", ⟨"VOLUME_RANGE", .ofList
      [("range-lower", "0"), ("range-upper", "20"), ("sharding-volume", "20")]⟩)]

private def saleBy (column : String) (value : Value) : Condition :=
  ⟨"t_order", [⟨column, .equal value⟩]⟩

/-- An order by a text in place of its number, or all new orders. -/
private def mistypedSales : Statement where
  tables := ["t_order"]
  conditions := [saleBy "order_id" (.text "abc"), saleBy "status" (.text "NEW")]

private def allSales : Route where
  tables := [⟨"t_order", [⟨"ds", "o_0"⟩, ⟨"ds", "o_1"⟩, ⟨"ds", "o_2"⟩], .sharded⟩]

/-- The text is looked at in one of the two orders only. -/
theorem mistyped_sales_depend_on_order :
    mistypedSales.conditions.Perm mistypedSales.conditions.reverse ∧
    (∀ condition ∈ mistypedSales.conditions,
      ∃ table ∈ mistypedSales.tables, condition.AppliesTo table) ∧
    ∃ rule, build .builtin DataNode.expand salesFile = .ok rule ∧
      rule.route mistypedSales none =
        .error (.mismatch "t_order" (.selection "VOLUME_RANGE" (.notInteger (.text "abc")))) ∧
      rule.route ⟨mistypedSales.tables, mistypedSales.conditions.reverse⟩ none = .ok allSales := by
  have run : (build .builtin DataNode.expand salesFile >>= fun rule => pure (decide
      (rule.route mistypedSales none =
          .error (.mismatch "t_order" (.selection "VOLUME_RANGE" (.notInteger (.text "abc")))) ∧
        rule.route ⟨mistypedSales.tables, mistypedSales.conditions.reverse⟩ none =
          .ok allSales))) = .ok true := by
    decide +kernel
  exact ⟨(List.reverse_perm _).symm, by decide +kernel, exists_of_decided run⟩

private def namedSales : Statement where
  tables := ["t_order"]
  conditions := [saleBy "order_id" (.int 25), saleBy "order_id" (.int 12)]

private def someSales : Route where
  tables := [⟨"t_order", [⟨"ds", "o_1"⟩, ⟨"ds", "o_2"⟩], .sharded⟩]

theorem sales_route_of_reordered :
    (∀ condition ∈ namedSales.conditions,
      ∃ table ∈ namedSales.tables, condition.AppliesTo table) ∧
    namedSales.conditions.Perm namedSales.conditions.reverse ∧
    ∃ rule, build .builtin DataNode.expand salesFile = .ok rule ∧ ¬ rule.Torn namedSales none ∧
      rule.route namedSales none = .ok someSales ∧
      rule.route ⟨namedSales.tables, namedSales.conditions.reverse⟩ none = .ok someSales := by
  have run : (build .builtin DataNode.expand salesFile >>= fun rule => pure (decide
      ((∀ table ∈ rule.table? "t_order", ¬ table.Torn (namedSales.conditionsOn "t_order") none) ∧
        rule.route namedSales none = .ok someSales))) = .ok true := by
    decide +kernel
  obtain ⟨rule, built, whole, routed⟩ := exists_of_decided run
  have listed : ∀ condition ∈ namedSales.conditions,
      ∃ table ∈ namedSales.tables, condition.AppliesTo table := by
    decide +kernel
  have perm := (List.reverse_perm namedSales.conditions).symm
  have notTorn : ¬ rule.Torn namedSales none := by
    rintro ⟨name, table, chooses, torn⟩
    have named : namedSales.tableNames = ["t_order"] := by decide +kernel
    have only := chooses.named
    rw [named, List.mem_singleton] at only
    subst only
    exact whole table chooses.ruled torn
  exact ⟨listed, perm, rule, built, notTorn, routed,
    ((route_of_reordered listed perm).2.1 notTorn someSales).mp routed⟩

end Rule

end Sharding
