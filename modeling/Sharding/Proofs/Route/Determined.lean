import Sharding.Proofs.Route.Selection
import Sharding.Proofs.Route.Tables

/-!
# Determined statements

A statement that fixes the sharding columns of a table to one value each. Each strategy names one
target then, and selects the candidates that are spellings of it. Names of nodes are told apart
with regard to case and selected without, so the route of the table has one node unless the
candidates themselves differ in nothing but case.
-/

set_option autoImplicit false

namespace Sharding

/-! ## Spellings of one name -/

namespace Name

variable {names : List String}

/-- No two of the names are spellings of one name. -/
def Apart (names : List String) : Prop :=
  names.Pairwise fun left right => ¬ Same left right

instance (names : List String) : Decidable (Apart names) :=
  inferInstanceAs (Decidable (names.Pairwise _))

/-- All of the names are spellings of one name. -/
def Alike (names : List String) : Prop :=
  ∀ left ∈ names, ∀ right ∈ names, Same left right

theorem Alike.eq_singleton (alike : Alike names) (apart : Apart names) (filled : names ≠ []) :
    ∃ name, names = [name] := by
  cases names with
  | nil => exact absurd rfl filled
  | cons first rest =>
      cases rest with
      | nil => exact ⟨first, rfl⟩
      | cons second rest =>
          have different := (List.pairwise_cons.mp apart).1 second List.mem_cons_self
          exact absurd (alike first (by simp) second (by simp)) different

end Name

/-! ## Selections -/

/-- A condition asks for one value of a column. -/
def Condition.Fixes (condition : Condition) (column : String) (value : Value) : Prop :=
  condition.predicate? column = some (.equal value)

instance (condition : Condition) (column : String) (value : Value) :
    Decidable (condition.Fixes column value) :=
  inferInstanceAs (Decidable (_ = _))

/-- A strategy by the value of one column. -/
def Strategy.IsBy (strategy : Strategy) (column : String) : Prop :=
  ∃ algorithm placement, strategy = .standard column algorithm placement

instance (strategy : Strategy) (column : String) : Decidable (strategy.IsBy column) :=
  match strategy with
  | .standard own algorithm placement =>
    decidable_of_iff (own = column)
      ⟨fun same => ⟨algorithm, placement, same ▸ rfl⟩, fun ⟨_, _, same⟩ => by cases same; rfl⟩
  | .complex _ _ _ => isFalse nofun
  | .hint _ _ => isFalse nofun
  | .unsharded => isFalse nofun

variable {condition : Condition} {column otherColumn : String} {value otherValue : Value}

theorem StandardPlacement.exists_of_select_equal {placement : StandardPlacement}
    {candidates names : List String}
    (selected : placement.select candidates column (.equal value) = .ok names) :
    ∃ target : Option String, names = target.toList := by
  simp only [select, selectAmong, List.mapM_cons, List.mapM_nil, bind_eq_ok, pure_eq_ok] at selected
  obtain ⟨_, ⟨target, _, _, rfl, rfl⟩, rfl⟩ := selected
  exact ⟨target, by cases target <;> rfl⟩

/-- A strategy by a column that is fixed selects the spellings of one target. -/
theorem Strategy.exists_target_of_fixed {strategy : Strategy} {table : String}
    {candidates chosen : List String} (isBy : strategy.IsBy column)
    (fixed : condition.Fixes column value)
    (selected : strategy.select table candidates (.conditions [condition]) = .ok chosen) :
    ∃ target : Option String, ∀ name, name ∈ chosen ↔
      name ∈ candidates ∧ ∃ wanted ∈ target, Name.Same wanted name := by
  obtain ⟨algorithm, placement, rfl⟩ := isBy
  obtain ⟨names, named, rfl⟩ := exists_of_select_asked fixed selected
  obtain ⟨target, rfl⟩ := placement.exists_of_select_equal named
  refine ⟨target, fun name => ?_⟩
  simp only [mem_retain_iff, Option.mem_toList, Option.mem_def]

theorem Strategy.mem_iff_same_of_fixed {strategy : Strategy} {table name other : String}
    {candidates chosen : List String} (isBy : strategy.IsBy column)
    (fixed : condition.Fixes column value)
    (selected : strategy.select table candidates (.conditions [condition]) = .ok chosen)
    (member : name ∈ chosen) (candidate : other ∈ candidates) :
    other ∈ chosen ↔ Name.Same name other := by
  obtain ⟨target, found⟩ := exists_target_of_fixed isBy fixed selected
  obtain ⟨_, wanted, given, same⟩ := (found name).mp member
  rw [found]
  constructor
  · rintro ⟨_, another, alsoGiven, otherSame⟩
    cases Option.mem_unique given alsoGiven
    exact same.symm.trans otherSame
  · intro spelled
    exact ⟨candidate, wanted, given, same.trans spelled⟩

theorem Strategy.alike_of_fixed {strategy : Strategy} {table : String}
    {candidates chosen : List String} (isBy : strategy.IsBy column)
    (fixed : condition.Fixes column value)
    (selected : strategy.select table candidates (.conditions [condition]) = .ok chosen) :
    Name.Alike chosen := by
  intro left leftMember right rightMember
  have candidate := (select_sublist selected).subset rightMember
  exact (mem_iff_same_of_fixed isBy fixed selected leftMember candidate).mp rightMember

namespace TableRule

/-- The nodes of a table are told apart without regard to case: its data sources, and on each data
source its actual tables. -/
structure Distinguishable (table : TableRule) : Prop where
  dataSources : Name.Apart table.dataSources
  actualTables : ∀ dataSource ∈ table.dataSources, Name.Apart (table.actualTables dataSource)

instance (table : TableRule) : Decidable table.Distinguishable :=
  decidable_of_iff
    (Name.Apart table.dataSources ∧
      ∀ dataSource ∈ table.dataSources, Name.Apart (table.actualTables dataSource))
    ⟨fun ⟨dataSources, actualTables⟩ => ⟨dataSources, actualTables⟩,
      fun ⟨dataSources, actualTables⟩ => ⟨dataSources, actualTables⟩⟩

/-- Nodes on spellings of one data source, and on each data source spellings of one table. -/
structure Alike (nodes : List DataNode) : Prop where
  dataSources : ∀ left ∈ nodes, ∀ right ∈ nodes, Name.Same left.dataSource right.dataSource
  tables : ∀ left ∈ nodes, ∀ right ∈ nodes, left.dataSource = right.dataSource →
    Name.Same left.table right.table

variable {table : TableRule} {nodes : List DataNode}

section

variable {dataSources : List String} {groups : List (List DataNode)}

theorem mem_flatten_iff_of_walked {evidence : Evidence} {node : DataNode}
    (walked : List.Forall₂ (fun dataSource group => table.selectOn evidence dataSource = .ok group)
      dataSources groups) :
    node ∈ groups.flatten ↔ node.dataSource ∈ dataSources ∧ ∃ names,
      table.tableStrategy.select table.logicTable (table.actualTables node.dataSource) evidence =
        .ok names ∧ node.table ∈ names := by
  constructor
  · intro member
    obtain ⟨group, listed, own⟩ := List.mem_flatten.mp member
    obtain ⟨dataSource, sourced, selected⟩ := exists_left_of_mem walked listed
    obtain ⟨names, chosen, rfl⟩ := selectOn_eq_ok selected
    obtain ⟨name, named, rfl⟩ := List.mem_map.mp own
    exact ⟨sourced, names, chosen, named⟩
  · rintro ⟨sourced, names, chosen, named⟩
    obtain ⟨group, listed, selected⟩ := exists_right_of_mem walked sourced
    obtain ⟨others, alsoChosen, rfl⟩ := selectOn_eq_ok selected
    rw [chosen] at alsoChosen
    cases alsoChosen
    exact List.mem_flatten.mpr ⟨_, listed, List.mem_map_of_mem named⟩

theorem eq_singleton_of_walked (isBy : table.tableStrategy.IsBy column)
    (fixed : condition.Fixes column value)
    (walked : List.Forall₂ (fun dataSource group =>
      table.selectOn (.conditions [condition]) dataSource = .ok group) dataSources groups)
    (alike : Name.Alike dataSources) (inside : dataSources.Sublist table.dataSources)
    (distinguishable : table.Distinguishable) (filled : groups.flatten ≠ []) :
    ∃ node, groups.flatten = [node] := by
  have some : dataSources ≠ [] := by
    rintro rfl
    cases walked
    exact filled rfl
  obtain ⟨dataSource, rfl⟩ := alike.eq_singleton (distinguishable.dataSources.sublist inside) some
  cases walked with
  | cons selected rest =>
      cases rest
      obtain ⟨names, chosen, rfl⟩ := selectOn_eq_ok selected
      rw [List.flatten_cons, List.flatten_nil, List.append_nil] at filled ⊢
      have own := inside.subset (List.mem_singleton_self dataSource)
      have apart := (distinguishable.actualTables dataSource own).sublist
        (Strategy.select_sublist chosen)
      have named : names ≠ [] := fun empty => filled (by rw [empty]; rfl)
      obtain ⟨name, rfl⟩ := (Strategy.alike_of_fixed isBy fixed chosen).eq_singleton apart named
      exact ⟨⟨dataSource, name⟩, rfl⟩

end

/-- With a node, all those on its data source are selected that are spelled like it. -/
theorem mem_iff_same_of_fixed {node other : DataNode} (isBy : table.tableStrategy.IsBy column)
    (fixed : condition.Fixes column value) (selected : table.select [condition] none = .ok nodes)
    (member : node ∈ nodes) (listed : other ∈ table.nodes)
    (same : node.dataSource = other.dataSource) :
    other ∈ nodes ↔ Name.Same node.table other.table := by
  obtain ⟨_, dataSources, groups, _, walked, rfl⟩ := select_eq_ok selected
  obtain ⟨sourced, names, chosen, named⟩ := (mem_flatten_iff_of_walked walked).mp member
  rw [same] at sourced chosen
  have candidate := mem_actualTables_iff.mpr listed
  rw [← Strategy.mem_iff_same_of_fixed isBy fixed chosen named candidate,
    mem_flatten_iff_of_walked walked]
  constructor
  · rintro ⟨_, others, alsoChosen, otherNamed⟩
    rw [chosen] at alsoChosen
    cases alsoChosen
    exact otherNamed
  · intro otherNamed
    exact ⟨sourced, names, chosen, otherNamed⟩

theorem select_of_fixed (database : table.databaseStrategy.IsBy column)
    (fixed : condition.Fixes column value) (isBy : table.tableStrategy.IsBy otherColumn)
    (otherFixed : condition.Fixes otherColumn otherValue)
    (selected : table.select [condition] none = .ok nodes) :
    nodes ≠ [] ∧ Alike nodes ∧ (table.Distinguishable → ∃ node, nodes = [node]) := by
  have own : ∀ node ∈ nodes, node ∈ table.nodes := fun node member =>
    mem_nodes_of_mem_nodesBySource ((select_sublist selected).subset member)
  have tables : ∀ left ∈ nodes, ∀ right ∈ nodes, left.dataSource = right.dataSource →
      Name.Same left.table right.table := fun _ leftMember right rightMember same =>
    (mem_iff_same_of_fixed isBy otherFixed selected leftMember (own right rightMember) same).mp
      rightMember
  obtain ⟨filled, dataSources, groups, sources, walked, rfl⟩ := select_eq_ok selected
  have inside := Strategy.select_sublist sources
  have alike := Strategy.alike_of_fixed database fixed sources
  refine ⟨filled, ⟨fun left leftMember right rightMember => ?_, tables⟩, fun distinguishable =>
    eq_singleton_of_walked isBy otherFixed walked alike inside distinguishable filled⟩
  have leftSourced := ((mem_flatten_iff_of_walked walked).mp leftMember).1
  have rightSourced := ((mem_flatten_iff_of_walked walked).mp rightMember).1
  exact alike _ leftSourced _ rightSourced

end TableRule

/-! ## Routes -/

namespace Rule

variable {rule : Rule} {statement : Statement} {name : String} {table : TableRule}

/-- A statement on one table that fixes the sharding columns of both strategies is routed to one
node, if the nodes of the table are told apart without regard to case. Else it may reach several
spellings of one node. -/
theorem determined_routes_are_alike {route : Route} (ruled : rule.table? name = some table)
    (notBroadcast : rule.isBroadcast name = false)
    (database : table.databaseStrategy.IsBy column) (isBy : table.tableStrategy.IsBy otherColumn)
    (alone : statement.tableNames = [name]) (only : statement.conditions = [condition])
    (fixed : condition.Fixes column value) (otherFixed : condition.Fixes otherColumn otherValue)
    (routed : rule.route statement none = .ok route) :
    ∃ nodes, route.tables = [⟨name, nodes, .sharded⟩] ∧ nodes ≠ [] ∧
      TableRule.Alike nodes ∧ (table.Distinguishable → ∃ node, nodes = [node]) := by
  have listed : condition ∈ statement.conditions := by
    rw [only]
    exact List.mem_singleton_self condition
  obtain ⟨first, ⟨named, applies⟩, _⟩ := Statement.existsUnique_appliesTo listed
  rw [alone, List.mem_singleton] at named
  subst named
  have conditions : statement.conditionsOn first = [condition] := by
    rw [Statement.conditionsOn, only]
    exact List.filter_cons_of_pos (decide_eq_true applies)
  rw [route_of_single rfl alone notBroadcast ruled, bind_eq_ok] at routed
  obtain ⟨entry, sharded, same⟩ := routed
  cases same
  obtain ⟨_, nodes, selected, rfl⟩ := routeSharded_eq_ok sharded
  rw [conditions] at selected
  exact ⟨nodes, rfl, TableRule.select_of_fixed database fixed isBy otherFixed selected⟩

private def twinEntry (pattern : String) : TableEntry where
  nodes := some pattern
  databaseStrategy := some { standard := some ⟨some "user_id", "source"⟩ }
  tableStrategy := some { standard := some ⟨some "order_id", "parity"⟩ }

private def twinFile (pattern : String) : RuleFile where
  dataSources := ["ds_0", "ds_1"]
  tables := .ofList [("t_order", twinEntry pattern)]
  algorithms := .ofList
    [("parity", ⟨"INLINE", .ofList [("algorithm-expression", "o_$\x7border_id % 2\x7d")]⟩),
      ("source", ⟨"INLINE", .ofList [("algorithm-expression", "ds_$\x7buser_id % 2\x7d")]⟩)]

private def twinCondition : Condition :=
  ⟨"t_order", [⟨"user_id", .equal (.int 1)⟩, ⟨"order_id", .equal (.int 2)⟩]⟩

private def twinStatement : Statement :=
  ⟨["t_order"], [twinCondition]⟩

private def twinRoute : Route where
  tables := [⟨"t_order", [⟨"ds_1", "o_0"⟩], .sharded⟩]

theorem order_route_is_alike :
    ∃ rule table, build .builtin DataNode.expand
        (twinFile "ds_$\x7b0..1\x7d.o_$\x7b0..1\x7d") = .ok rule ∧
      rule.table? "t_order" = some table ∧ table.Distinguishable ∧
      rule.route twinStatement none = .ok twinRoute ∧
      ∃ nodes, twinRoute.tables = [⟨"t_order", nodes, .sharded⟩] ∧
        ∃ node, nodes = [node] := by
  have run : (build .builtin DataNode.expand (twinFile "ds_$\x7b0..1\x7d.o_$\x7b0..1\x7d") >>=
      fun rule => pure (decide
        (rule.isBroadcast "t_order" = false ∧
        (∃ table ∈ rule.table? "t_order", table.Distinguishable ∧
          table.databaseStrategy.IsBy "user_id" ∧ table.tableStrategy.IsBy "order_id") ∧
        rule.route twinStatement none = .ok twinRoute))) = .ok true := by
    decide +kernel
  obtain ⟨rule, built, notBroadcast, ⟨table, ruled, distinguishable, database, isBy⟩, routed⟩ :=
    exists_of_decided run
  obtain ⟨nodes, only, _, _, single⟩ := determined_routes_are_alike
    ruled notBroadcast database isBy (by decide +kernel) rfl
    (by decide +kernel : twinCondition.Fixes "user_id" (.int 1))
    (by decide +kernel : twinCondition.Fixes "order_id" (.int 2)) routed
  exact ⟨rule, table, built, ruled, distinguishable, routed, nodes, only, single distinguishable⟩

/-- Two spellings of one node, which a statement can only reach together. -/
theorem respelled_nodes_share_a_route :
    ∃ rule route, build .builtin DataNode.expand (twinFile "ds_1.o_0, ds_1.O_0") = .ok rule ∧
      rule.isBroadcast "t_order" = false ∧ rule.group? "t_order" = none ∧
      (∃ table ∈ rule.table? "t_order", table.databaseStrategy.IsBy "user_id" ∧
        table.tableStrategy.IsBy "order_id") ∧
      twinStatement.tableNames = ["t_order"] ∧ twinStatement.conditions = [twinCondition] ∧
      twinCondition.Fixes "user_id" (.int 1) ∧ twinCondition.Fixes "order_id" (.int 2) ∧
      rule.route twinStatement none = .ok route ∧
      ¬ ∃ node, route.nodesFor "t_order" = [node] := by
  have run : (build .builtin DataNode.expand (twinFile "ds_1.o_0, ds_1.O_0") >>=
      fun rule => pure (decide
        (rule.isBroadcast "t_order" = false ∧ rule.group? "t_order" = none ∧
        (∃ table ∈ rule.table? "t_order", table.nodes = [⟨"ds_1", "o_0"⟩, ⟨"ds_1", "O_0"⟩] ∧
          table.databaseStrategy.IsBy "user_id" ∧ table.tableStrategy.IsBy "order_id") ∧
        ∃ route, rule.route twinStatement none = .ok route ∧
          (route.nodesFor "t_order").head? = some ⟨"ds_1", "o_0"⟩))) = .ok true := by
    decide +kernel
  obtain ⟨rule, built, notBroadcast, ungrouped, ⟨table, ruled, nodes, database, isBy⟩, route,
    routed, first⟩ := exists_of_decided run
  have fixed : twinCondition.Fixes "user_id" (.int 1) := by decide +kernel
  have otherFixed : twinCondition.Fixes "order_id" (.int 2) := by decide +kernel
  have alone : twinStatement.tableNames = ["t_order"] := by decide +kernel
  refine ⟨rule, route, built, notBroadcast, ungrouped, ⟨table, ruled, database, isBy⟩, alone, rfl,
    fixed, otherFixed, routed, ?_⟩
  rintro ⟨node, single⟩
  rw [single] at first
  cases first
  have only : twinStatement.conditionsOn "t_order" = [twinCondition] := by decide +kernel
  have named : twinStatement.Names "t_order" := by decide +kernel
  have selected := select_of_alone rfl routed named ruled notBroadcast ungrouped
  rw [only, single] at selected
  have listed : ⟨"ds_1", "O_0"⟩ ∈ table.nodes := by simp [nodes]
  have same : Name.Same "o_0" "O_0" :=
    Eq.trans (b := "o_0") (by decide +kernel) (by decide +kernel)
  have twin := (TableRule.mem_iff_same_of_fixed isBy otherFixed selected
    (List.mem_singleton_self _) listed rfl).mpr same
  exact absurd (List.mem_singleton.mp twin) (by decide)

end Rule

end Sharding
