import Sharding.Proofs.Route.Passes
import Sharding.Proofs.Route.Selection
import Sharding.Proofs.Rule.Build

/-!
# Groups in routes

The tables of a group that occur in one statement are routed alike. One of them leads, and every
other has, node by node, the table at the same place on the same data source.
-/

set_option autoImplicit false

namespace Sharding

/-! ## Corresponding nodes -/

namespace TableRule

variable {follower leader : TableRule} {node image : DataNode}

/-- The place of a node among the tables on its data source. -/
def place? (table : TableRule) (node : DataNode) : Option Nat :=
  (table.actualTables node.dataSource).idxOf? node.table

/-- Nodes of two tables lie on one data source and at one place there. If the follower has no node
twice, no other place can be meant. -/
structure Corresponds (follower leader : TableRule) (node image : DataNode) : Prop where
  sameSource : image.dataSource = node.dataSource
  samePlace : ∃ index, leader.place? node = some index ∧
    (follower.actualTables node.dataSource)[index]? = some image.table
  onlyPlace : follower.nodes.Nodup → follower.place? image = leader.place? node

theorem idxOf?_of_getElem? {names : List String} {index : Nat} {name : String}
    (distinct : names.Nodup) (found : names[index]? = some name) :
    names.idxOf? name = some index := by
  obtain ⟨inside, rfl⟩ := List.getElem?_eq_some_iff.mp found
  refine List.idxOf?_eq_some_iff.mpr ⟨inside, rfl, fun earlier before same => ?_⟩
  have equal := (List.Nodup.getElem_inj_iff distinct).mp same
  omega

theorem follow?_eq_some_iff :
    follower.follow? leader node = some image ↔
      image.dataSource = node.dataSource ∧ ∃ index, leader.place? node = some index ∧
        (follower.actualTables node.dataSource)[index]? = some image.table := by
  simp only [follow?, place?, Option.bind_eq_bind, Option.bind_eq_some_iff, Option.pure_def,
    Option.some.injEq]
  constructor
  · rintro ⟨index, placed, name, named, rfl⟩
    exact ⟨rfl, index, placed, named⟩
  · rintro ⟨sameSource, index, placed, named⟩
    exact ⟨index, placed, image.table, named, by rw [← sameSource]⟩

theorem corresponds_of_follow? (followed : follower.follow? leader node = some image) :
    follower.Corresponds leader node image := by
  obtain ⟨sameSource, index, placed, named⟩ := follow?_eq_some_iff.mp followed
  refine ⟨sameSource, ⟨index, placed, named⟩, fun distinct => ?_⟩
  rw [placed, place?, sameSource]
  exact idxOf?_of_getElem? (nodup_actualTables distinct _) named

theorem getElem?_of_place? {index : Nat} (placed : leader.place? node = some index) :
    (leader.actualTables node.dataSource)[index]? = some node.table := by
  obtain ⟨inside, found, _⟩ := List.idxOf?_eq_some_iff.mp placed
  exact List.getElem?_eq_some_iff.mpr ⟨inside, found⟩

theorem Corresponds.mem_nodes (corresponds : follower.Corresponds leader node image) :
    image ∈ follower.nodes := by
  obtain ⟨index, _, named⟩ := corresponds.samePlace
  rw [← corresponds.sameSource] at named
  exact mem_actualTables_iff.mp (List.mem_of_getElem? named)

/-- A node corresponds to one node only. -/
theorem Corresponds.injective {other : DataNode} (distinct : follower.nodes.Nodup)
    (corresponds : follower.Corresponds leader node image)
    (otherCorresponds : follower.Corresponds leader other image) : node = other := by
  obtain ⟨index, placed, _⟩ := corresponds.samePlace
  have sources := corresponds.sameSource.symm.trans otherCorresponds.sameSource
  have otherPlaced : leader.place? other = some index := by
    rw [← otherCorresponds.onlyPlace distinct, corresponds.onlyPlace distinct, placed]
  have tables := getElem?_of_place? placed
  rw [sources, getElem?_of_place? otherPlaced] at tables
  cases node
  cases other
  cases sources
  cases tables
  rfl

theorem follow_eq_ok_iff {nodes images : List DataNode} :
    follower.follow leader nodes = .ok images ↔
      List.Forall₂ (fun node image => follower.follow? leader node = some image) nodes images := by
  rw [← mapM_eq_some_iff, follow]
  cases nodes.mapM (follower.follow? leader) <;> simp

theorem length_actualTables_eq_of_shape (sameShape : follower.shape = leader.shape)
    (member : node ∈ leader.nodes) :
    (follower.actualTables node.dataSource).length =
      (leader.actualTables node.dataSource).length := by
  have entry :
      (node.dataSource, (leader.actualTables node.dataSource).length) ∈ follower.shape := by
    rw [sameShape]
    exact List.mem_map.mpr ⟨_, mem_dataSources_of_mem member, rfl⟩
  obtain ⟨dataSource, _, same⟩ := List.mem_map.mp entry
  simp only [Prod.mk.injEq] at same
  obtain ⟨rfl, same⟩ := same
  exact same

/-- A table follows any nodes of a table of the same shape. -/
theorem exists_follow_eq_ok {nodes : List DataNode} (sameShape : follower.shape = leader.shape)
    (inside : ∀ node ∈ nodes, node ∈ leader.nodes) :
    ∃ images, follower.follow leader nodes = .ok images := by
  simp only [follow_eq_ok_iff]
  induction nodes with
  | nil => exact ⟨[], .nil⟩
  | cons node nodes ih =>
      obtain ⟨member, rest⟩ := List.forall_mem_cons.mp inside
      obtain ⟨images, followed⟩ := ih rest
      have placed : (leader.place? node).isSome := by
        rw [place?, List.isSome_idxOf?]
        exact mem_actualTables_iff.mpr member
      obtain ⟨index, place⟩ := Option.isSome_iff_exists.mp placed
      have bound : index < (follower.actualTables node.dataSource).length := by
        rw [length_actualTables_eq_of_shape sameShape member]
        exact (List.idxOf?_eq_some_iff.mp place).1
      have first : follower.follow? leader node =
          some ⟨node.dataSource, (follower.actualTables node.dataSource)[index]⟩ :=
        follow?_eq_some_iff.mpr ⟨rfl, index, place, List.getElem?_eq_getElem bound⟩
      exact ⟨_ :: images, .cons first followed⟩

end TableRule

/-! ## Members of groups -/

/-- The tables of a statement that belong to a group. -/
def Statement.membersOf (statement : Statement) (group : List String) : List String :=
  statement.tableNames.filter fun name => group.contains (Name.fold name)

namespace Rule

variable {rule : Rule} {statement : Statement} {hint : Option Hint} {group : List String}
  {name primary : String}

/-- The first member of a group that a sharding condition or a hint reaches, or else the first
member. -/
def leader? (rule : Rule) (statement : Statement) (hint : Option Hint) (group : List String) :
    Option String :=
  (statement.membersOf group).find? (fun member => rule.IsDriven statement hint member) <|>
    (statement.membersOf group).head?

theorem mem_membersOf_iff :
    name ∈ statement.membersOf group ↔ name ∈ statement.tableNames ∧ Name.fold name ∈ group := by
  simp [Statement.membersOf]

theorem mem_membersOf_of_leader? (leads : rule.leader? statement hint group = some name) :
    name ∈ statement.membersOf group := by
  rw [leader?, Option.orElse_eq_orElse, Option.orElse_eq_or, Option.or_eq_some_iff] at leads
  rcases leads with driven | ⟨_, first⟩
  · exact List.mem_of_find?_eq_some driven
  · exact List.mem_of_head? first

theorem exists_leader? (rule : Rule) (hint : Option Hint)
    (touched : statement.membersOf group ≠ []) :
    ∃ name, rule.leader? statement hint group = some name := by
  obtain ⟨first, rest, members⟩ := List.exists_cons_of_ne_nil touched
  unfold leader?
  rw [members]
  cases (first :: rest).find? (fun member => rule.IsDriven statement hint member) with
  | none => exact ⟨first, rfl⟩
  | some driven => exact ⟨driven, rfl⟩

namespace Grouped

theorem groupKey?_iff {key : String} (grouped : rule.Grouped) (groupMember : group ∈ rule.groups)
    (first : group.head? = some key) :
    rule.groupKey? name = some key ↔ Name.fold name ∈ group := by
  constructor
  · intro keyed
    obtain ⟨other, found, otherFirst⟩ := Option.bind_eq_some_iff.mp keyed
    obtain ⟨otherMember, inOther⟩ := group?_eq_some found
    rw [grouped.eq_of_mem groupMember otherMember (List.mem_of_head? first)
      (List.mem_of_head? otherFirst)]
    exact inOther
  · intro inside
    rw [groupKey?, grouped.group?_eq groupMember inside]
    exact first

theorem members_eq {key : String} (grouped : rule.Grouped) (groupMember : group ∈ rule.groups)
    (first : group.head? = some key) :
    rule.members statement key = statement.membersOf group := by
  refine List.filter_congr fun member _ => Bool.eq_iff_iff.mpr ?_
  simp only [Bool.and_eq_true, Bool.not_eq_true', decide_eq_true_eq, List.contains_iff_mem,
    grouped.groupKey?_iff groupMember first]
  refine ⟨fun ⟨_, inside⟩ => inside, fun inside => ⟨⟨?_, ?_⟩, inside⟩⟩
  · exact grouped.notBroadcast group groupMember _ inside
  · obtain ⟨table, ruled⟩ := grouped.exists_table? groupMember inside
    exact Option.isSome_iff_exists.mpr ⟨table, ruled⟩

/-- The primary of a table is the leader of its group. -/
theorem primary?_eq (grouped : rule.Grouped) (groupMember : group ∈ rule.groups)
    (inside : Name.fold name ∈ group) :
    rule.primary? statement hint name = rule.leader? statement hint group := by
  obtain ⟨key, rest, rfl⟩ := List.exists_cons_of_ne_nil (grouped.filled group groupMember)
  rw [primary?, (grouped.groupKey?_iff groupMember rfl).mpr inside, Option.bind_some,
    grouped.members_eq groupMember rfl]
  rfl

end Grouped

/-! ## Alignment -/

/-- A route follows another one node by node. -/
structure Trails (rule : Rule) (leader entry : TableRoute) : Prop where
  source : entry.source = .binding leader.table
  nodes : ∃ table leaderTable, rule.table? entry.table = some table ∧
    rule.table? leader.table = some leaderTable ∧
    List.Forall₂ (table.Corresponds leaderTable) leader.nodes entry.nodes

/-- If tables of a group are routed, the leader of the group is routed by its own strategies and
every other table of the group follows it. -/
def Aligned (rule : Rule) (statement : Statement) (hint : Option Hint)
    (entries : List TableRoute) (group : List String) : Prop :=
  statement.membersOf group ≠ [] → ∃ leader ∈ entries,
    rule.leader? statement hint group = some leader.table ∧ leader.source = .sharded ∧
      ∀ entry ∈ entries, Name.fold entry.table ∈ group → entry = leader ∨ rule.Trails leader entry

theorem Arrives.leads_of_primary {entry : TableRoute}
    (arrives : rule.Arrives statement hint name entry)
    (own : rule.primary? statement hint name = some name) :
    rule.Leads statement hint name entry := by
  refine arrives.leads_of_not_follows ?_
  rintro ⟨primary, chosen, different⟩
  rw [own] at chosen
  cases chosen
  exact different (Name.Same.refl name)

theorem Arrives.eq_or_trails {entry leader : TableRoute} {table : TableRule}
    (arrives : rule.Arrives statement hint name entry)
    (notBroadcast : rule.isBroadcast name = false) (ruled : rule.table? name = some table)
    (named : name ∈ statement.tableNames) (primaryNamed : primary ∈ statement.tableNames)
    (chosen : rule.primary? statement hint name = some primary)
    (primaryLeads : rule.Leads statement hint primary leader) :
    entry = leader ∨ rule.Trails leader entry := by
  cases arrives with
  | leads leads =>
      by_cases same : Name.Same primary name
      · cases statement.eq_of_same primaryNamed named same
        exact .inl (leads.unique primaryLeads)
      · cases leads with
        | broadcast broadcast => simp [broadcast] at notBroadcast
        | default _ unruled _ => simp [unruled] at ruled
        | sharded _ _ leads _ _ => exact absurd ⟨primary, chosen, same⟩ leads
  | follows _ ownRuled follows primaryRuled leads _ followed =>
      have samePrimary := follows.1
      rw [chosen] at samePrimary
      cases samePrimary
      cases leads.unique primaryLeads
      refine .inr ⟨rfl, _, _, ownRuled, primaryRuled, ?_⟩
      exact (TableRule.follow_eq_ok_iff.mp followed).imp fun _ _ => TableRule.corresponds_of_follow?

namespace Grouped

theorem aligned {entries : List TableRoute} (grouped : rule.Grouped)
    (arrived : List.Forall₂ (rule.Arrives statement hint) statement.tableNames entries)
    (groupMember : group ∈ rule.groups) : rule.Aligned statement hint entries group := by
  intro touched
  obtain ⟨primary, leads⟩ := exists_leader? rule hint touched
  obtain ⟨primaryNamed, primaryInside⟩ := mem_membersOf_iff.mp (mem_membersOf_of_leader? leads)
  have chosen : ∀ name, Name.fold name ∈ group →
      rule.primary? statement hint name = some primary := by
    intro name inside
    rw [grouped.primary?_eq groupMember inside, leads]
  obtain ⟨leader, leaderMember, leaderArrives⟩ := exists_right_of_mem arrived primaryNamed
  have leaderLeads := leaderArrives.leads_of_primary (chosen primary primaryInside)
  obtain ⟨nodes, rfl⟩ := leaderLeads.eq_sharded (chosen primary primaryInside)
  refine ⟨_, leaderMember, leads, rfl, fun entry entryMember inside => ?_⟩
  obtain ⟨name, named, arrives⟩ := exists_left_of_mem arrived entryMember
  rw [arrives.table_eq] at inside
  obtain ⟨table, ruled⟩ := grouped.exists_table? groupMember inside
  exact arrives.eq_or_trails (grouped.notBroadcast group groupMember _ inside) ruled named
    primaryNamed (chosen name inside) leaderLeads

/-- A table has the shape of its primary. -/
theorem shape_eq {table primaryTable : TableRule} (grouped : rule.Grouped)
    (chosen : rule.primary? statement hint name = some primary)
    (ruled : rule.table? name = some table)
    (primaryRuled : rule.table? primary = some primaryTable) :
    table.shape = primaryTable.shape := by
  obtain ⟨key, keyed, member⟩ := groupKey?_isSome_of_primary? chosen
  obtain ⟨group, found, first⟩ := Option.bind_eq_some_iff.mp keyed
  obtain ⟨groupMember, inside⟩ := group?_eq_some found
  have primaryInside :=
    (grouped.groupKey?_iff groupMember first).mp (mem_members_iff.mp member).2.2.2
  obtain ⟨shape, shaped⟩ := grouped.shaped group groupMember
  obtain ⟨_, ownFound, ownShape⟩ := shaped _ inside
  obtain ⟨_, primaryFound, primaryShape⟩ := shaped _ primaryInside
  cases ruled.symm.trans ownFound
  cases primaryRuled.symm.trans primaryFound
  exact ownShape.trans primaryShape.symm

end Grouped

theorem audit_ne_noTarget {table : TableRule} {conditioned hinted : Bool} :
    rule.audit table conditioned hinted ≠ .error (.noTarget name) := by
  intro failed
  unfold audit at failed
  split at failed
  · cases failed
  · split at failed
    · cases failed
    · split at failed
      · cases failed
      · obtain ⟨auditor, _, refused⟩ := exists_of_forM_eq_error failed
        unfold auditBy at refused
        split at refused
        · cases refused
        · split at refused <;> cases refused

theorem Leads.mem_nodes {table : TableRule} {nodes : List DataNode}
    (leads : rule.Leads statement hint name ⟨name, nodes, .sharded⟩)
    (ruled : rule.table? name = some table) : ∀ node ∈ nodes, node ∈ table.nodes := by
  cases leads with
  | sharded _ ownRuled _ _ selected =>
      cases ruled.symm.trans ownRuled
      intro node member
      exact TableRule.mem_nodes_of_mem_nodesBySource
        ((TableRule.select_sublist selected).subset member)

/-- The second pass does not fail for want of a target. -/
theorem Grouped.complete_ne_noTarget {slots : List (Option TableRoute)}
    {slot : Option TableRoute} {lost : String} (grouped : rule.Grouped)
    (walked : statement.tableNames.mapM (rule.routeLeading statement hint) = .ok slots)
    (routed : rule.routeLeading statement hint name = .ok slot) :
    rule.complete statement hint (slots.filterMap id) (name, slot) ≠ .error (.noTarget lost) := by
  cases slot with
  | some own => exact nofun
  | none =>
      obtain ⟨primary, table, primaryTable, nodes, ruled, follows, primaryRuled, leads,
        following⟩ := routeFollowing_eq walked routed
      obtain ⟨images, followed⟩ := TableRule.exists_follow_eq_ok
        (grouped.shape_eq follows.1 ruled primaryRuled) (leads.mem_nodes primaryRuled)
      intro failed
      rw [complete, following, bind_eq_error] at failed
      rcases failed with refused | ⟨_, _, failed⟩
      · exact audit_ne_noTarget refused
      · rw [followed] at failed
        cases failed

/-- Groups stay aligned: of the tables of a group in a statement exactly the leader is routed by
its strategies, and the others have the nodes that correspond to its nodes. Following it never
fails for want of a target. -/
theorem groups_stay_aligned {catalog : Catalog}
    {expand : String → Except Error (List DataNode)} {file : RuleFile}
    (built : build catalog expand file = .ok rule) (free : hint.bind (·.dataSource) = none) :
    (∀ route, rule.route statement hint = .ok route →
      route.tables.map (·.table) = statement.tableNames ∧
        ∀ group ∈ rule.groups, rule.Aligned statement hint route.tables group) ∧
    ∀ slots, statement.tableNames.mapM (rule.routeLeading statement hint) = .ok slots →
      ∀ pair ∈ statement.tableNames.zip slots, ∀ lost,
        rule.complete statement hint (slots.filterMap id) pair ≠ .error (.noTarget lost) := by
  have grouped := (isBuilt_of_build built).grouped
  constructor
  · intro route routed
    have arrived := arrives_of_route free routed
    exact ⟨map_table_of_arrives arrived, fun group member => grouped.aligned arrived member⟩
  · rintro slots walked ⟨name, slot⟩ member lost
    exact grouped.complete_ne_noTarget walked (List.forall₂_zip (mapM_eq_ok_iff.mp walked) member)

end Rule

private def byVolume : StrategyEntry := { standard := some ⟨some "order_id", "volume"⟩ }

private def orderItemsFile : RuleFile where
  dataSources := ["ds_0", "ds_1"]
  tables := .ofList
    [("t_item", ⟨some "ds_$\x7b0..1\x7d.i_$\x7b1..2\x7d", none, some byVolume, none, none⟩),
      ("t_order", ⟨some "ds_$\x7b0..1\x7d.o_$\x7b1..2\x7d", none, some byVolume, none, none⟩)]
  bindingTables := ["t_order, t_item"]
  algorithms := .ofList
    [("volume", ⟨"VOLUME_RANGE", .ofList
      [("range-lower", "0"), ("range-upper", "20"), ("sharding-volume", "10")]⟩)]

private def orderItemsStatement : Statement where
  tables := ["t_order", "t_item"]
  conditions := [⟨"t_item", [⟨"order_id", .equal (.int 12)⟩]⟩]

/-- The second table leads, since the condition is on it. -/
private def orderItemsRoute : Route where
  tables :=
    [⟨"t_order", [⟨"ds_0", "o_2"⟩, ⟨"ds_1", "o_2"⟩], .binding "t_item"⟩,
      ⟨"t_item", [⟨"ds_0", "i_2"⟩, ⟨"ds_1", "i_2"⟩], .sharded⟩]

theorem order_items_stay_aligned :
    ∃ rule, Rule.build .builtin DataNode.expand orderItemsFile = .ok rule ∧
      rule.route orderItemsStatement none = .ok orderItemsRoute ∧
      ∀ group ∈ rule.groups,
        rule.Aligned orderItemsStatement none orderItemsRoute.tables group := by
  have run : (Rule.build .builtin DataNode.expand orderItemsFile >>= fun rule =>
      rule.route orderItemsStatement none) = .ok orderItemsRoute := by
    decide +kernel
  obtain ⟨rule, built, routed⟩ := bind_eq_ok.mp run
  exact ⟨rule, built, routed, ((Rule.groups_stay_aligned built rfl).1 orderItemsRoute routed).2⟩

end Sharding
