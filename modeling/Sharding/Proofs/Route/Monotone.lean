import Sharding.Proofs.Catalog
import Sharding.Proofs.Route.Agreement

/-!
# More conditions

The predicates of one condition hold together, so one more of them can only take nodes away from a
route. Conditions on one table are alternatives, so one more of them can only add nodes. Both rest
on one fact about a single alternative: where it selects names, it selects the same names with one
more predicate.
-/

set_option autoImplicit false

namespace Sharding

/-! ## Alternatives side by side -/

/-- There are alternatives, and each of them refines another one. -/
structure AllRefine {α : Type} (refines : α → α → Prop) (narrows wides : List α) : Prop where
  filled : narrows ≠ []
  each : ∀ item ∈ narrows, ∃ other ∈ wides, refines item other

section

variable {α : Type} {refines weaker : α → α → Prop} {narrows wides earlier later : List α}
  {item other : α}

theorem AllRefine.imp (allRefine : AllRefine refines narrows wides)
    (widen : ∀ item other, refines item other → weaker item other) :
    AllRefine weaker narrows wides := by
  refine ⟨allRefine.filled, ?_⟩
  intro item member
  obtain ⟨other, otherMember, related⟩ := allRefine.each item member
  exact ⟨other, otherMember, widen item other related⟩

theorem AllRefine.nonempty (allRefine : AllRefine refines narrows wides) : wides ≠ [] := by
  obtain ⟨item, member⟩ := List.exists_mem_of_ne_nil narrows allRefine.filled
  obtain ⟨other, otherMember, _⟩ := allRefine.each item member
  exact List.ne_nil_of_mem otherMember

theorem AllRefine.of_subset (refl : ∀ item, refines item item) (filled : narrows ≠ [])
    (inside : narrows ⊆ wides) : AllRefine refines narrows wides := by
  refine ⟨filled, ?_⟩
  intro item member
  exact ⟨item, inside member, refl item⟩

theorem AllRefine.replace (refl : ∀ item, refines item item) (related : refines item other) :
    AllRefine refines (earlier ++ item :: later) (earlier ++ other :: later) := by
  refine ⟨by simp, ?_⟩
  intro found member
  rcases List.mem_append.mp member with before | here
  · exact ⟨found, List.mem_append_left _ before, refl found⟩
  · rcases List.mem_cons.mp here with rfl | after
    · exact ⟨other, List.mem_append_right _ List.mem_cons_self, related⟩
    · exact ⟨found, List.mem_append_right _ (List.mem_cons_of_mem _ after), refl found⟩

/-- Where a selection is limited, the other one is limited too, to some of the names. -/
def Within (narrow wide : Option (List String)) : Prop :=
  ∀ names ∈ wide, ∃ others ∈ narrow, others ⊆ names

theorem selectAny_within {select : α → Except Error (Option (List String))}
    {narrow wide : Option (List String)}
    (allRefine : AllRefine (fun item other => ∀ names,
      select other = .ok (some names) → select item = .ok (some names)) narrows wides)
    (narrowSelected : selectAny select narrows = .ok narrow)
    (wideSelected : selectAny select wides = .ok wide) : Within narrow wide := by
  intro names limited
  cases limited
  cases narrow with
  | none =>
      obtain ⟨item, member, opens⟩ := exists_of_selectAny_eq_none narrowSelected
      obtain ⟨other, otherMember, keeps⟩ := allRefine.each item member
      obtain ⟨own, ownSelected, _⟩ := selectAny_eq_some wideSelected other otherMember
      rw [keeps own ownSelected] at opens
      cases opens
  | some others =>
      refine ⟨others, rfl, ?_⟩
      intro name named
      obtain ⟨item, member, own, ownSelected, inside⟩ :=
        (mem_selectAny_iff narrowSelected name).mp named
      obtain ⟨other, otherMember, keeps⟩ := allRefine.each item member
      obtain ⟨kept, keptSelected, within⟩ := selectAny_eq_some wideSelected other otherMember
      rw [keeps kept keptSelected] at ownSelected
      cases ownSelected
      exact within inside

end

theorem retain_subset {candidates narrow wide : List String} (within : narrow ⊆ wide) :
    retain candidates narrow ⊆ retain candidates wide := by
  intro candidate member
  obtain ⟨inside, chosen, named, same⟩ := mem_retain_iff.mp member
  exact mem_retain_iff.mpr ⟨inside, chosen, within named, same⟩

namespace Strategy

variable {strategy : Strategy} {table : String} {candidates narrowChosen wideChosen : List String}
  {narrows wides : List Condition}

/-- Wherever the one condition selects names, the other one selects the same names. -/
def Refines (strategy : Strategy) (narrow wide : Condition) : Prop :=
  ∀ candidates names, strategy.selectedBy candidates wide = .ok (some names) →
    strategy.selectedBy candidates narrow = .ok (some names)

theorem Refines.refl (strategy : Strategy) (condition : Condition) :
    strategy.Refines condition condition := by
  intro candidates names selected
  exact selected

theorem selected_within {narrow wide : Option (List String)}
    (allRefine : AllRefine strategy.Refines narrows wides)
    (narrowSelected : strategy.selected table candidates (.conditions narrows) = .ok narrow)
    (wideSelected : strategy.selected table candidates (.conditions wides) = .ok wide) :
    Within narrow wide := by
  rw [selected_conditions, selectBy_of_ne_nil allRefine.filled] at narrowSelected
  rw [selected_conditions, selectBy_of_ne_nil allRefine.nonempty] at wideSelected
  refine selectAny_within (allRefine.imp ?_) narrowSelected wideSelected
  intro condition other refines
  exact refines candidates

theorem select_subset (allRefine : AllRefine strategy.Refines narrows wides)
    (narrowSelected : strategy.select table candidates (.conditions narrows) = .ok narrowChosen)
    (wideSelected : strategy.select table candidates (.conditions wides) = .ok wideChosen) :
    narrowChosen ⊆ wideChosen := by
  rcases select_eq_ok wideSelected with ⟨_, rfl⟩ | ⟨names, wideNamed, rfl⟩
  · exact (select_sublist narrowSelected).subset
  · rcases select_eq_ok narrowSelected with ⟨opens, _⟩ | ⟨others, narrowNamed, rfl⟩
    · obtain ⟨_, absent, _⟩ := selected_within allRefine opens wideNamed names rfl
      cases absent
    · obtain ⟨_, same, within⟩ := selected_within allRefine narrowNamed wideNamed names rfl
      cases same
      exact retain_subset within

end Strategy

namespace TableRule

variable {table : TableRule} {narrows wides : List Condition}
  {narrowNodes wideNodes : List DataNode}

structure Refines (table : TableRule) (narrow wide : Condition) : Prop where
  database : table.databaseStrategy.Refines narrow wide
  own : table.tableStrategy.Refines narrow wide

theorem Refines.refl (table : TableRule) (condition : Condition) :
    table.Refines condition condition :=
  ⟨.refl _ condition, .refl _ condition⟩

theorem selectOn_subset {dataSource : String} (allRefine : AllRefine table.Refines narrows wides)
    (narrowSelected : table.selectOn (.conditions narrows) dataSource = .ok narrowNodes)
    (wideSelected : table.selectOn (.conditions wides) dataSource = .ok wideNodes) :
    narrowNodes ⊆ wideNodes := by
  obtain ⟨narrowTables, narrowChosen, rfl⟩ := selectOn_eq_ok narrowSelected
  obtain ⟨wideTables, wideChosen, rfl⟩ := selectOn_eq_ok wideSelected
  have own := allRefine.imp fun _ _ refines => refines.own
  exact List.map_subset _ (Strategy.select_subset own narrowChosen wideChosen)

theorem select_subset (allRefine : AllRefine table.Refines narrows wides)
    (narrowSelected : table.select narrows none = .ok narrowNodes)
    (wideSelected : table.select wides none = .ok wideNodes) : narrowNodes ⊆ wideNodes := by
  obtain ⟨_, narrowSources, narrowGroups, narrowChosen, narrowWalked, rfl⟩ :=
    select_eq_ok narrowSelected
  obtain ⟨_, wideSources, wideGroups, wideChosen, wideWalked, rfl⟩ := select_eq_ok wideSelected
  have database := allRefine.imp fun _ _ refines => refines.database
  have sources : narrowSources ⊆ wideSources :=
    Strategy.select_subset database narrowChosen wideChosen
  intro node member
  obtain ⟨narrowGroup, narrowMember, inside⟩ := List.mem_flatten.mp member
  obtain ⟨dataSource, sourceMember, narrowOn⟩ := exists_left_of_mem narrowWalked narrowMember
  obtain ⟨wideGroup, wideMember, wideOn⟩ := exists_right_of_mem wideWalked (sources sourceMember)
  have within := selectOn_subset allRefine narrowOn wideOn
  exact List.mem_flatten.mpr ⟨wideGroup, wideMember, within inside⟩

end TableRule

/-! ## One more predicate -/

namespace Condition

variable {condition : Condition} {column : String} {predicate : Predicate}

def and (condition : Condition) (entry : ColumnPredicate) : Condition :=
  { condition with columns := condition.columns ++ [entry] }

/-- The first predicate on a column is the one that counts, so a later one replaces none. -/
theorem predicate?_and (entry : ColumnPredicate)
    (found : condition.predicate? column = some predicate) :
    (condition.and entry).predicate? column = some predicate := by
  obtain ⟨first, firstFound, rfl⟩ := Option.map_eq_some_iff.mp found
  rw [predicate?, and, List.find?_append, firstFound]
  rfl

end Condition

def NameMap.Extends {α : Type} (more fewer : NameMap α) : Prop :=
  ∀ key value, fewer.get? key = some value → more.get? key = some value

theorem NameMap.Extends.not_isEmpty {α : Type} {more fewer : NameMap α}
    (extended : more.Extends fewer) (filled : ¬ fewer.isEmpty = true) :
    ¬ more.isEmpty = true := by
  intro empty
  refine filled (isEmpty_iff.mpr fun key => ?_)
  cases found : fewer.get? key with
  | none => rfl
  | some value =>
      rw [← isEmpty_iff.mp empty key]
      exact (extended key value found).symm

theorem extends_predicates_and (condition : Condition) (entry : ColumnPredicate)
    (columns : List String) :
    ((condition.and entry).predicates columns).Extends (condition.predicates columns) := by
  intro column predicate found
  rw [Condition.get?_predicates] at found ⊢
  split at found
  next own =>
    rw [if_pos own]
    exact Condition.predicate?_and entry found
  next => cases found

namespace ComplexInline

variable {complex : ComplexInline} {more fewer : NameMap Predicate}

/-- A combination needs a value for every column, so what is combined once stays as it is. -/
theorem extend_of_extends (extended : more.Extends fewer) {before after : List (List Value)}
    {column : String} (made : complex.extend fewer before column = .ok after) :
    complex.extend more before column = .ok after := by
  cases found : fewer.get? column with
  | none =>
      rw [extend, found] at made
      cases made
  | some predicate =>
      rw [extend, found] at made
      rw [extend, extended column predicate found]
      exact made

theorem select_of_extends (extended : more.Extends fewer) {candidates names : List String}
    (selected : complex.select candidates fewer = .ok names) :
    complex.select candidates more = .ok names := by
  obtain ⟨combinations, combined, chosen⟩ := bind_eq_ok.mp selected
  have same : complex.combinations more = .ok combinations :=
    foldlM_eq_ok_of_imp (fun _ _ _ => extend_of_extends extended) combined
  exact bind_eq_ok.mpr ⟨combinations, same, chosen⟩

end ComplexInline

namespace Strategy

/-- The strategy is not complex or its placement is the one by template. -/
def Templated (strategy : Strategy) : Prop :=
  ∀ columns algorithm placement, strategy = .complex columns algorithm placement →
    ∃ complex : ComplexInline, placement = complex.placement

theorem refines_and {strategy : Strategy} (templated : strategy.Templated) (condition : Condition)
    (entry : ColumnPredicate) : strategy.Refines (condition.and entry) condition := by
  intro candidates names selected
  cases strategy with
  | unsharded => cases selected
  | hint algorithm placement => cases selected
  | standard column algorithm placement =>
      rw [selectedBy, selectColumn] at selected ⊢
      cases found : condition.predicate? column with
      | none =>
          rw [found] at selected
          cases selected
      | some predicate =>
          rw [found] at selected
          rw [Condition.predicate?_and entry found]
          exact selected
  | complex columns algorithm placement =>
      obtain ⟨complex, rfl⟩ := templated columns algorithm placement rfl
      have extended := extends_predicates_and condition entry columns
      rw [selectedBy, selectColumns] at selected ⊢
      split at selected
      next => cases selected
      next filled =>
        rw [if_neg (extended.not_isEmpty filled)]
        obtain ⟨own, chosen, kept⟩ := bind_eq_ok.mp selected
        exact bind_eq_ok.mpr ⟨own, complex.select_of_extends extended chosen, kept⟩

end Strategy

namespace Rule

variable {catalog : Catalog} {expand : String → Except Error (List DataNode)} {file : RuleFile}
  {rule : Rule} {name : String} {table : TableRule}

theorem IsBuilt.templated (isBuilt : IsBuilt catalog expand file rule)
    (registered : catalog.placements = Catalog.builtin.placements)
    (ruled : rule.table? name = some table) :
    table.databaseStrategy.Templated ∧ table.tableStrategy.Templated := by
  have each : ∀ strategy : Strategy, strategy.Described rule.algorithms → strategy.Templated := by
    rintro _ described columns algorithm placement rfl
    obtain ⟨_, known⟩ := described.known (.complex placement) rfl
    cases isBuilt.algorithm_builtin registered known with
    | complexInline complex => exact ⟨complex, rfl⟩
  obtain ⟨database, own⟩ := isBuilt.described ruled
  exact ⟨each _ database, each _ own⟩

/-! ## Routes -/

theorem nodesFor_subset {narrow wide : Statement} {narrowRoute wideRoute : Route}
    (ruled : rule.table? name = some table) (notBroadcast : rule.isBroadcast name = false)
    (alone : rule.group? name = none)
    (allRefine : AllRefine table.Refines (narrow.conditionsOn name) (wide.conditionsOn name))
    (narrowRouted : rule.route narrow none = .ok narrowRoute)
    (wideRouted : rule.route wide none = .ok wideRoute) :
    narrowRoute.nodesFor name ⊆ wideRoute.nodesFor name := by
  obtain ⟨condition, member⟩ := List.exists_mem_of_ne_nil _ allRefine.filled
  obtain ⟨other, otherMember⟩ := List.exists_mem_of_ne_nil _ allRefine.nonempty
  have narrowSelected := select_of_alone rfl narrowRouted (.of_conditionsOn member) ruled
    notBroadcast alone
  have wideSelected := select_of_alone rfl wideRouted (.of_conditionsOn otherMember) ruled
    notBroadcast alone
  exact TableRule.select_subset allRefine narrowSelected wideSelected

/-- One more predicate in a condition adds no node to the route of its table, and one more
condition on a table that has conditions removes none. -/
theorem conditions_are_monotone (built : build catalog expand file = .ok rule)
    (registered : catalog.placements = Catalog.builtin.placements)
    (ruled : rule.table? name = some table) (notBroadcast : rule.isBroadcast name = false)
    (alone : rule.group? name = none) (tables : List String) (earlier later : List Condition)
    (condition : Condition) (applies : condition.AppliesTo name) :
    (∀ (entry : ColumnPredicate) (wide narrow : Route),
      rule.route ⟨tables, earlier ++ condition :: later⟩ none = .ok wide →
      rule.route ⟨tables, earlier ++ condition.and entry :: later⟩ none = .ok narrow →
      narrow.nodesFor name ⊆ wide.nodesFor name) ∧
    ((∃ other ∈ earlier ++ later, other.AppliesTo name) → ∀ narrow wide : Route,
      rule.route ⟨tables, earlier ++ later⟩ none = .ok narrow →
      rule.route ⟨tables, earlier ++ condition :: later⟩ none = .ok wide →
      narrow.nodesFor name ⊆ wide.nodesFor name) := by
  constructor
  · intro entry wide narrow wideRouted narrowRouted
    obtain ⟨database, own⟩ := (isBuilt_of_build built).templated registered ruled
    have refines : table.Refines (condition.and entry) condition :=
      ⟨Strategy.refines_and database condition entry, Strategy.refines_and own condition entry⟩
    have stillApplies : (condition.and entry).AppliesTo name := applies
    refine nodesFor_subset ruled notBroadcast alone ?_ narrowRouted wideRouted
    rw [Statement.conditionsOn_insert stillApplies, Statement.conditionsOn_insert applies]
    exact .replace (.refl table) refines
  · rintro ⟨other, member, otherApplies⟩ narrow wide narrowRouted wideRouted
    have filled : Statement.conditionsOn ⟨tables, earlier ++ later⟩ name ≠ [] :=
      List.ne_nil_of_mem (Statement.mem_conditionsOn_iff.mpr ⟨member, otherApplies⟩)
    refine nodesFor_subset ruled notBroadcast alone (.of_subset (.refl table) filled ?_)
      narrowRouted wideRouted
    have kept : (earlier ++ later).Sublist (earlier ++ condition :: later) :=
      (List.sublist_cons_self condition later).append_left earlier
    exact (kept.filter _).subset

private def cartFile : RuleFile where
  dataSources := ["ds_0", "ds_1"]
  tables := .ofList
    [("t_cart", ⟨some "ds_$\x7b0..1\x7d.c_$\x7b0..1\x7d",
      some { standard := some ⟨some "user_id", "users"⟩ },
      some { complex := some ⟨"cart_id", "carts"⟩ }, none, none⟩)]
  algorithms := .ofList
    [("carts", ⟨"COMPLEX_INLINE", .ofList
        [("algorithm-expression", "c_$\x7bcart_id % 2\x7d"), ("sharding-columns", "cart_id")]⟩),
      ("users", ⟨"INLINE", .ofList [("algorithm-expression", "ds_$\x7buser_id % 2\x7d")]⟩)]

private def cartsOfUser (user : Int64) : Condition :=
  ⟨"t_cart", [⟨"user_id", .equal (.int user)⟩]⟩

private def thisCart : ColumnPredicate :=
  ⟨"cart_id", .equal (.int 8)⟩

private def cartRoute (nodes : List DataNode) : Route where
  tables := [⟨"t_cart", nodes, .sharded⟩]

/-- All carts of a user, then one of them, then that one or all carts of another user. -/
theorem cart_conditions_are_monotone :
    ∃ rule, build .builtin DataNode.expand cartFile = .ok rule ∧
      rule.route ⟨[], [cartsOfUser 5]⟩ none = .ok (cartRoute [⟨"ds_1", "c_0"⟩, ⟨"ds_1", "c_1"⟩]) ∧
      rule.route ⟨[], [(cartsOfUser 5).and thisCart]⟩ none = .ok (cartRoute [⟨"ds_1", "c_0"⟩]) ∧
      (cartRoute [⟨"ds_1", "c_0"⟩]).nodesFor "t_cart" ⊆
        (cartRoute [⟨"ds_1", "c_0"⟩, ⟨"ds_1", "c_1"⟩]).nodesFor "t_cart" ∧
      ∃ wide, rule.route ⟨[], [(cartsOfUser 5).and thisCart, cartsOfUser 4]⟩ none = .ok wide ∧
        (cartRoute [⟨"ds_1", "c_0"⟩]).nodesFor "t_cart" ⊆ wide.nodesFor "t_cart" := by
  have run : (build .builtin DataNode.expand cartFile >>= fun rule => pure (decide
      ((rule.table? "t_cart").isSome = true ∧ rule.isBroadcast "t_cart" = false ∧
        rule.group? "t_cart" = none ∧
        rule.route ⟨[], [cartsOfUser 5]⟩ none =
          .ok (cartRoute [⟨"ds_1", "c_0"⟩, ⟨"ds_1", "c_1"⟩]) ∧
        rule.route ⟨[], [(cartsOfUser 5).and thisCart]⟩ none =
          .ok (cartRoute [⟨"ds_1", "c_0"⟩]) ∧
        rule.route ⟨[], [(cartsOfUser 5).and thisCart, cartsOfUser 4]⟩ none =
          .ok (cartRoute [⟨"ds_0", "c_0"⟩, ⟨"ds_0", "c_1"⟩, ⟨"ds_1", "c_0"⟩,
            ⟨"ds_1", "c_1"⟩])))) = .ok true := by
    decide +kernel
  obtain ⟨rule, built, sharded, notBroadcast, alone, loose, tight, either⟩ := exists_of_decided run
  obtain ⟨table, ruled⟩ := Option.isSome_iff_exists.mp sharded
  have narrowed := (conditions_are_monotone built rfl ruled notBroadcast alone [] [] []
    (cartsOfUser 5) (by decide +kernel)).1 thisCart _ _ loose tight
  have widened := (conditions_are_monotone built rfl ruled notBroadcast alone []
    [(cartsOfUser 5).and thisCart] [] (cartsOfUser 4) (by decide +kernel)).2
    (by decide +kernel) _ _ tight either
  exact ⟨rule, built, loose, tight, narrowed, _, either, widened⟩

end Rule

end Sharding
