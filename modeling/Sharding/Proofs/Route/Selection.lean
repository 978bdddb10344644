import Mathlib.Data.List.Flatten
import Sharding.Proofs.Outcome
import Sharding.Proofs.TableRule
import Sharding.Route.Selection

/-!
# Selections inside their candidates

A strategy never leaves its candidates nor their order, whatever its placement returns, so what a
table selects are nodes of its own, data source by data source. Alternatives together select what
each of them does.
-/

set_option autoImplicit false

namespace Sharding

/-! ## Alternatives together -/

section

variable {α : Type} {select : α → Except Error (Option (List String))} {items : List α}
  {first second third : Except Error (Option (List String))} {names : List String}

/-- Two selections one after the other. The second does not count if the first fails or leaves the
choice open. -/
def unite : Except Error (Option (List String)) → Except Error (Option (List String)) →
    Except Error (Option (List String))
  | .error error, _ => .error error
  | .ok none, _ => .ok none
  | .ok (some _), .error error => .error error
  | .ok (some _), .ok none => .ok none
  | .ok (some names), .ok (some others) => .ok (some (names ++ others))

theorem unite_eq_some : unite first second = .ok (some names) ↔
    ∃ own others, first = .ok (some own) ∧ second = .ok (some others) ∧ own ++ others = names := by
  rcases first with _ | _ | own <;> rcases second with _ | _ | others <;> simp [unite]

theorem unite_eq_none : unite first second = .ok none ↔
    first = .ok none ∨ ∃ own, first = .ok (some own) ∧ second = .ok none := by
  rcases first with _ | _ | own <;> rcases second with _ | _ | others <;> simp [unite]

theorem unite_eq_error {error : Error} : unite first second = .error error ↔
    first = .error error ∨ ∃ own, first = .ok (some own) ∧ second = .error error := by
  rcases first with _ | _ | own <;> rcases second with _ | _ | others <;> simp [unite]

theorem unite_nothing : unite (.ok (some [])) second = second := by
  rcases second with _ | _ | others <;> rfl

theorem unite_assoc : unite (unite first second) third = unite first (unite second third) := by
  rcases first with _ | _ | own <;> rcases second with _ | _ | others <;>
    rcases third with _ | _ | rest <;> simp [unite]

theorem selectAny_cons (item : α) (items : List α) :
    selectAny select (item :: items) = unite (select item) (selectAny select items) := by
  rw [selectAny]
  rcases select item with _ | _ | own
  · rfl
  · rfl
  · rcases selectAny select items with _ | _ | others <;> rfl

theorem selectBy_of_ne_nil {select : Condition → Except Error (Option (List String))}
    {conditions : List Condition} (some : conditions ≠ []) :
    selectBy select conditions = selectAny select conditions := by
  cases conditions with
  | nil => exact absurd rfl some
  | cons first rest => rfl

theorem selectAny_congr {select : Condition → Except Error (Option (List String))}
    {lefts rights : List Condition}
    (paired : List.Forall₂ (fun left right => select left = select right) lefts rights) :
    selectAny select lefts = selectAny select rights := by
  induction paired with
  | nil => rfl
  | cons same _ ih => rw [selectAny, selectAny, same, ih]

theorem selectBy_congr {select : Condition → Except Error (Option (List String))}
    {lefts rights : List Condition}
    (paired : List.Forall₂ (fun left right => select left = select right) lefts rights) :
    selectBy select lefts = selectBy select rights := by
  cases paired with
  | nil => rfl
  | cons same rest => exact selectAny_congr (.cons same rest)

theorem selectAny_append (earlier later : List α) :
    selectAny select (earlier ++ later) =
      unite (selectAny select earlier) (selectAny select later) := by
  induction earlier with
  | nil => exact unite_nothing.symm
  | cons item earlier ih =>
      rw [List.cons_append, selectAny_cons, selectAny_cons, ih, unite_assoc]

theorem selectAny_eq_some (selected : selectAny select items = .ok (some names)) :
    ∀ item ∈ items, ∃ own, select item = .ok (some own) ∧ own ⊆ names := by
  induction items generalizing names with
  | nil => exact fun _ member => absurd member List.not_mem_nil
  | cons first items ih =>
      rw [selectAny_cons, unite_eq_some] at selected
      obtain ⟨own, others, ownSelected, othersSelected, rfl⟩ := selected
      intro item member
      rcases List.mem_cons.mp member with rfl | member
      · exact ⟨own, ownSelected, List.subset_append_left own others⟩
      · obtain ⟨found, foundSelected, inside⟩ := ih othersSelected item member
        exact ⟨found, foundSelected, List.Subset.trans inside (List.subset_append_right own others)⟩

/-- A name is selected if some alternative selects it. -/
theorem mem_selectAny_iff (selected : selectAny select items = .ok (some names)) (name : String) :
    name ∈ names ↔ ∃ item ∈ items, ∃ own, select item = .ok (some own) ∧ name ∈ own := by
  constructor
  · intro member
    induction items generalizing names with
    | nil =>
        cases selected
        cases member
    | cons first items ih =>
        rw [selectAny_cons, unite_eq_some] at selected
        obtain ⟨own, others, ownSelected, othersSelected, rfl⟩ := selected
        rcases List.mem_append.mp member with ownMember | othersMember
        · exact ⟨first, List.mem_cons_self, own, ownSelected, ownMember⟩
        · obtain ⟨item, itemMember, found⟩ := ih othersSelected othersMember
          exact ⟨item, List.mem_cons_of_mem _ itemMember, found⟩
  · rintro ⟨item, itemMember, own, ownSelected, member⟩
    obtain ⟨found, foundSelected, inside⟩ := selectAny_eq_some selected item itemMember
    rw [ownSelected] at foundSelected
    cases foundSelected
    exact inside member

theorem exists_of_selectAny_eq_none (opened : selectAny select items = .ok none) :
    ∃ item ∈ items, select item = .ok none := by
  induction items with
  | nil => cases opened
  | cons first items ih =>
      rw [selectAny_cons, unite_eq_none] at opened
      rcases opened with opens | ⟨_, _, opened⟩
      · exact ⟨first, List.mem_cons_self, opens⟩
      · obtain ⟨item, member, opens⟩ := ih opened
        exact ⟨item, List.mem_cons_of_mem _ member, opens⟩

theorem exists_of_selectAny_eq_error {error : Error}
    (failed : selectAny select items = .error error) :
    ∃ item ∈ items, select item = .error error := by
  induction items with
  | nil => cases failed
  | cons first items ih =>
      rw [selectAny_cons, unite_eq_error] at failed
      rcases failed with fails | ⟨_, _, failed⟩
      · exact ⟨first, List.mem_cons_self, fails⟩
      · obtain ⟨item, member, fails⟩ := ih failed
        exact ⟨item, List.mem_cons_of_mem _ member, fails⟩

end

/-! ## Strategies and tables -/

namespace Condition

variable {condition : Condition} {column : String}

theorem get?_predicates (condition : Condition) (columns : List String) (column : String) :
    (condition.predicates columns).get? column =
      if column ∈ columns then condition.predicate? column else none := by
  have listed : ∀ predicate, (column, predicate) ∈ (columns.filterMap fun column =>
      (condition.predicate? column).map fun predicate => (column, predicate)) ↔
      column ∈ columns ∧ condition.predicate? column = some predicate := by
    intro predicate
    simp [List.mem_filterMap]
  cases found : (condition.predicates columns).get? column with
  | some predicate =>
      obtain ⟨own, asked⟩ := (listed predicate).mp (NameMap.mem_of_get?_ofList found)
      rw [if_pos own, asked]
  | none =>
      split
      next own =>
        cases asked : condition.predicate? column with
        | none => rfl
        | some predicate =>
            have known := NameMap.isSome_get?_ofList
              (List.mem_map_of_mem ((listed predicate).mpr ⟨own, asked⟩))
            change ((condition.predicates columns).get? column).isSome = true at known
            rw [found] at known
            cases known
      next => rfl

end Condition

namespace Strategy

variable {strategy : Strategy} {table : String} {candidates chosen : List String}
  {evidence : Evidence}

theorem select_eq_ok (selected : strategy.select table candidates evidence = .ok chosen) :
    (strategy.selected table candidates evidence = .ok none ∧ chosen = candidates) ∨
      ∃ names, strategy.selected table candidates evidence = .ok (some names) ∧
        chosen = retain candidates names := by
  unfold select at selected
  split at selected
  next => cases selected
  next nothing =>
    cases selected
    exact .inl ⟨nothing, rfl⟩
  next names some =>
    cases selected
    exact .inr ⟨names, some, rfl⟩

section

variable {placement : StandardPlacement} {condition : Condition} {column : String}
  {predicate : Predicate}

theorem selected_of_asked (asked : condition.predicate? column = some predicate)
    (algorithm table : String) (candidates : List String) :
    (Strategy.standard column algorithm placement).selected table candidates
      (.conditions [condition]) = (do
        return some (← placement.select candidates column predicate)) := by
  simp only [selected, selectBy, selectAny, selectColumn, asked]
  cases chosen : placement.select candidates column predicate with
  | error error => rfl
  | ok names => exact congrArg (fun all => Except.ok (some all)) (List.append_nil names)

theorem select_eq_retain {names : List String}
    (asked : condition.predicate? column = some predicate)
    (chosen : placement.select candidates column predicate = .ok names)
    (algorithm table : String) :
    (Strategy.standard column algorithm placement).select table candidates
      (.conditions [condition]) = .ok (retain candidates names) := by
  rw [select, selected_of_asked asked, chosen]
  rfl

/-- A sharding column with a condition leaves what the placement selects. -/
theorem exists_of_select_asked {algorithm : String}
    (asked : condition.predicate? column = some predicate)
    (selected : (Strategy.standard column algorithm placement).select table candidates
      (.conditions [condition]) = .ok chosen) :
    ∃ names, placement.select candidates column predicate = .ok names ∧
      chosen = retain candidates names := by
  rcases select_eq_ok selected with ⟨opened, _⟩ | ⟨names, found, rfl⟩
  · simp only [selected_of_asked asked, bind_eq_ok, pure_eq_ok, reduceCtorEq, and_false,
      exists_false] at opened
  · simp only [selected_of_asked asked, bind_eq_ok, pure_eq_ok, Option.some.injEq] at found
    obtain ⟨_, found, rfl⟩ := found
    exact ⟨_, found, rfl⟩

end

theorem select_sublist (selected : strategy.select table candidates evidence = .ok chosen) :
    chosen.Sublist candidates := by
  rcases select_eq_ok selected with ⟨_, rfl⟩ | ⟨names, _, rfl⟩
  · exact List.Sublist.refl _
  · exact List.filter_sublist

end Strategy

namespace TableRule

variable {table : TableRule}

theorem selectOn_eq_ok {evidence : Evidence} {dataSource : String} {nodes : List DataNode}
    (selected : table.selectOn evidence dataSource = .ok nodes) :
    ∃ names, table.tableStrategy.select table.logicTable (table.actualTables dataSource) evidence =
        .ok names ∧ nodes = names.map fun name => ⟨dataSource, name⟩ := by
  simp only [selectOn, bind_eq_ok, pure_eq_ok] at selected
  obtain ⟨names, chosen, rfl⟩ := selected
  exact ⟨names, chosen, rfl⟩

theorem selectOn_sublist {evidence : Evidence} {dataSource : String} {nodes : List DataNode}
    (selected : table.selectOn evidence dataSource = .ok nodes) :
    nodes.Sublist (table.nodesOn dataSource) := by
  obtain ⟨names, chosen, rfl⟩ := selectOn_eq_ok selected
  rw [← map_actualTables]
  exact (Strategy.select_sublist chosen).map _

theorem select_eq_ok {conditions : List Condition} {hint : Option Hint} {nodes : List DataNode}
    (selected : table.select conditions hint = .ok nodes) :
    nodes ≠ [] ∧ ∃ dataSources groups,
      table.databaseStrategy.select table.logicTable table.dataSources
        (table.databaseEvidence conditions hint) = .ok dataSources ∧
      List.Forall₂ (fun dataSource group =>
        table.selectOn (table.tableEvidence conditions hint) dataSource = .ok group)
        dataSources groups ∧
      nodes = groups.flatten := by
  simp only [select, bind_eq_ok] at selected
  obtain ⟨dataSources, sourcesSelected, groups, walked, rest⟩ := selected
  split at rest
  next => cases rest
  next filled =>
    cases rest
    refine ⟨fun empty => filled (List.isEmpty_iff.mpr empty), ?_⟩
    exact ⟨dataSources, groups, sourcesSelected, mapM_eq_ok_iff.mp walked, rfl⟩

/-- What the strategies of a table select lies within its nodes, in the order of its data sources
and on each of them in the order of the nodes. -/
theorem select_sublist {conditions : List Condition} {hint : Option Hint} {nodes : List DataNode}
    (selected : table.select conditions hint = .ok nodes) :
    nodes.Sublist table.nodesBySource := by
  obtain ⟨_, dataSources, groups, sourcesSelected, walked, rfl⟩ := select_eq_ok selected
  have within := flatten_sublist_flatMap (walked.imp fun _ _ => selectOn_sublist)
  exact within.trans ((Strategy.select_sublist sourcesSelected).flatMap table.nodesOn)

end TableRule

end Sharding
