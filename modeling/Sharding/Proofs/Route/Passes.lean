import Sharding.Proofs.Outcome
import Sharding.Proofs.Statement
import Sharding.Route

/-!
# Passes of routing

How the route of each table of a statement comes about. The first pass routes the tables that
follow no other, the second one those that follow their primary, and a primary is always among the
tables that the first pass has routed.
-/

set_option autoImplicit false

namespace Sharding

namespace Rule

variable {rule : Rule} {statement : Statement} {hint : Option Hint} {name primary : String}

/-! ## Primaries -/

theorem mem_members_iff {key : String} :
    name ∈ rule.members statement key ↔
      name ∈ statement.tableNames ∧ rule.isBroadcast name = false ∧ rule.isSharded name = true ∧
        rule.groupKey? name = some key := by
  simp only [members, List.mem_filter, Bool.and_eq_true, Bool.not_eq_true', decide_eq_true_eq,
    and_assoc]

theorem groupKey?_isSome_of_primary? (chosen : rule.primary? statement hint name = some primary) :
    ∃ key, rule.groupKey? name = some key ∧ primary ∈ rule.members statement key := by
  obtain ⟨key, keyed, picked⟩ := Option.bind_eq_some_iff.mp chosen
  refine ⟨key, keyed, ?_⟩
  rw [Option.orElse_eq_orElse, Option.orElse_eq_or, Option.or_eq_some_iff] at picked
  rcases picked with driven | ⟨_, first⟩
  · exact List.mem_of_find?_eq_some driven
  · exact List.mem_of_head? first

theorem primary?_eq_of_groupKey? {other : String}
    (sameKey : rule.groupKey? name = rule.groupKey? other) :
    rule.primary? statement hint name = rule.primary? statement hint other := by
  rw [primary?, primary?, sameKey]

/-- The primary of a group is its own primary. -/
theorem primary?_primary (chosen : rule.primary? statement hint name = some primary) :
    rule.primary? statement hint primary = some primary := by
  obtain ⟨key, keyed, member⟩ := groupKey?_isSome_of_primary? chosen
  have primaryKeyed := (mem_members_iff.mp member).2.2.2
  rw [← chosen]
  exact primary?_eq_of_groupKey? (primaryKeyed.trans keyed.symm)

/-- A table follows another one, the primary of its group. -/
def Follows (rule : Rule) (statement : Statement) (hint : Option Hint) (name primary : String) :
    Prop :=
  rule.primary? statement hint name = some primary ∧ ¬ Name.Same primary name

theorem not_follows_iff : (¬ ∃ primary, rule.Follows statement hint name primary) ↔
    (rule.primary? statement hint name).any (fun primary => ¬ Name.Same primary name) = false := by
  cases chosen : rule.primary? statement hint name with
  | none => simp [Follows, chosen]
  | some primary => simp [Follows, chosen]

theorem Follows.primary_leads {other : String}
    (follows : rule.Follows statement hint name primary) :
    ¬ rule.Follows statement hint primary other := by
  rintro ⟨chosen, different⟩
  rw [primary?_primary follows.1] at chosen
  cases chosen
  exact different (Name.Same.refl primary)

/-! ## First pass -/

/-- The route of a table that follows no other. -/
inductive Leads (rule : Rule) (statement : Statement) (hint : Option Hint) (name : String) :
    TableRoute → Prop where
  | broadcast (broadcast : rule.isBroadcast name = true) :
      Leads rule statement hint name ⟨name, rule.broadcastNodes name, .broadcast⟩
  | default {dataSource : String} (notBroadcast : rule.isBroadcast name = false)
      (unruled : rule.table? name = none) (declared : rule.defaultDataSource = some dataSource) :
      Leads rule statement hint name ⟨name, [⟨dataSource, name⟩], .default⟩
  | sharded {table : TableRule} {nodes : List DataNode}
      (notBroadcast : rule.isBroadcast name = false) (ruled : rule.table? name = some table)
      (leads : ¬ ∃ primary, rule.Follows statement hint name primary)
      (audited : rule.audit table (decide (table.Conditioned (statement.conditionsOn name)))
        (decide (IsHinted hint name)) = .ok ())
      (selected : table.select (statement.conditionsOn name) hint = .ok nodes) :
      Leads rule statement hint name ⟨name, nodes, .sharded⟩

theorem Leads.table_eq {entry : TableRoute} (leads : rule.Leads statement hint name entry) :
    entry.table = name := by
  cases leads <;> rfl

theorem routeDefault_eq_ok {entry : TableRoute} (routed : rule.routeDefault name = .ok entry) :
    ∃ dataSource, rule.defaultDataSource = some dataSource ∧
      entry = ⟨name, [⟨dataSource, name⟩], .default⟩ := by
  unfold routeDefault at routed
  cases declared : rule.defaultDataSource with
  | none => simp [declared] at routed
  | some dataSource =>
      simp only [declared, Except.ok.injEq] at routed
      exact ⟨dataSource, rfl, routed.symm⟩

theorem routeSharded_eq_ok {table : TableRule} {entry : TableRoute}
    (routed : rule.routeSharded statement hint name table = .ok entry) :
    rule.audit table (decide (table.Conditioned (statement.conditionsOn name)))
        (decide (IsHinted hint name)) = .ok () ∧
      ∃ nodes, table.select (statement.conditionsOn name) hint = .ok nodes ∧
        entry = ⟨name, nodes, .sharded⟩ := by
  simp only [routeSharded, bind_eq_ok, pure_eq_ok] at routed
  obtain ⟨_, audited, nodes, selected, built⟩ := routed
  exact ⟨audited, nodes, selected, built.symm⟩

theorem leads_of_routeLeading {entry : TableRoute}
    (routed : rule.routeLeading statement hint name = .ok (some entry)) :
    rule.Leads statement hint name entry := by
  unfold routeLeading at routed
  cases broadcast : rule.isBroadcast name with
  | true =>
      simp only [broadcast, if_true, Except.ok.injEq, Option.some.injEq] at routed
      cases routed
      exact .broadcast broadcast
  | false =>
      simp only [broadcast, Bool.false_eq_true, if_false] at routed
      cases ruled : rule.table? name with
      | none =>
          simp only [ruled, bind_eq_ok, pure_eq_ok, Option.some.injEq] at routed
          obtain ⟨_, defaulted, rfl⟩ := routed
          obtain ⟨dataSource, declared, rfl⟩ := routeDefault_eq_ok defaulted
          exact .default broadcast ruled declared
      | some table =>
          simp only [ruled] at routed
          split at routed
          · cases routed
          next leads =>
            simp only [bind_eq_ok, pure_eq_ok, Option.some.injEq] at routed
            obtain ⟨_, sharded, rfl⟩ := routed
            obtain ⟨audited, nodes, selected, rfl⟩ := routeSharded_eq_ok sharded
            exact .sharded broadcast ruled (not_follows_iff.mpr (Bool.eq_false_iff.mpr leads))
              audited selected

theorem Leads.routeLeading_eq {entry : TableRoute} (leads : rule.Leads statement hint name entry) :
    rule.routeLeading statement hint name = .ok (some entry) := by
  cases leads with
  | broadcast broadcast => simp [routeLeading, broadcast]
  | default notBroadcast unruled declared =>
      simp only [routeLeading, notBroadcast, Bool.false_eq_true, if_false, unruled, routeDefault,
        declared]
      rfl
  | sharded notBroadcast ruled leads audited selected =>
      simp only [routeLeading, notBroadcast, Bool.false_eq_true, if_false, ruled,
        not_follows_iff.mp leads, routeSharded, audited, selected]
      rfl

theorem Leads.unique {left right : TableRoute} (leftLeads : rule.Leads statement hint name left)
    (rightLeads : rule.Leads statement hint name right) : left = right := by
  have same := leftLeads.routeLeading_eq.symm.trans rightLeads.routeLeading_eq
  exact Option.some.inj (Except.ok.inj same)

theorem follows_of_routeLeading (routed : rule.routeLeading statement hint name = .ok none) :
    rule.isBroadcast name = false ∧ (∃ table, rule.table? name = some table) ∧
      ∃ primary, rule.Follows statement hint name primary := by
  unfold routeLeading at routed
  cases broadcast : rule.isBroadcast name with
  | true => simp [broadcast] at routed
  | false =>
      simp only [broadcast, Bool.false_eq_true, if_false] at routed
      cases ruled : rule.table? name with
      | none =>
          simp only [ruled, bind_eq_ok, pure_eq_ok, reduceCtorEq, and_false, exists_false] at routed
      | some table =>
          simp only [ruled] at routed
          split at routed
          next follows =>
            refine ⟨rfl, ⟨table, rfl⟩, Classical.byContradiction fun leads => ?_⟩
            rw [not_follows_iff.mp leads] at follows
            cases follows
          next =>
            simp only [bind_eq_ok, pure_eq_ok, reduceCtorEq, and_false, exists_false] at routed

/-! ## Second pass -/

theorem exists_find?_same {entries : List TableRoute} {own : TableRoute} (member : own ∈ entries)
    (same : Name.Same own.table name) :
    ∃ entry ∈ entries, Name.Same entry.table name ∧
      entries.find? (fun route => Name.Same route.table name) = some entry := by
  have found : (entries.find? fun route => Name.Same route.table name).isSome :=
    List.find?_isSome.mpr ⟨own, member, decide_eq_true same⟩
  obtain ⟨entry, foundEntry⟩ := Option.isSome_iff_exists.mp found
  have entrySame : decide (Name.Same entry.table name) = true := by
    simpa using List.find?_some foundEntry
  exact ⟨entry, List.mem_of_find?_eq_some foundEntry, of_decide_eq_true entrySame, foundEntry⟩

theorem Leads.eq_sharded {entry : TableRoute} (leads : rule.Leads statement hint primary entry)
    (chosen : rule.primary? statement hint name = some primary) :
    ∃ nodes, entry = ⟨primary, nodes, .sharded⟩ := by
  obtain ⟨key, _, member⟩ := groupKey?_isSome_of_primary? chosen
  obtain ⟨_, notBroadcast, sharded, _⟩ := mem_members_iff.mp member
  cases leads with
  | broadcast broadcast => simp [broadcast] at notBroadcast
  | default _ unruled _ => simp [isSharded, unruled] at sharded
  | sharded _ _ _ _ _ => exact ⟨_, rfl⟩

/-- The route of a table by either pass. -/
inductive Arrives (rule : Rule) (statement : Statement) (hint : Option Hint) (name : String) :
    TableRoute → Prop where
  | leads {entry : TableRoute} (leads : rule.Leads statement hint name entry) :
      Arrives rule statement hint name entry
  | follows {primary : String} {table primaryTable : TableRule} {leading nodes : List DataNode}
      (notBroadcast : rule.isBroadcast name = false) (ruled : rule.table? name = some table)
      (follows : rule.Follows statement hint name primary)
      (primaryRuled : rule.table? primary = some primaryTable)
      (primaryLeads : rule.Leads statement hint primary ⟨primary, leading, .sharded⟩)
      (audited : rule.audit table
        (decide (rule.IsConditioned statement name ∨ rule.IsConditioned statement primary))
        (decide (IsHinted hint name ∨ IsHinted hint primary)) = .ok ())
      (followed : table.follow primaryTable leading = .ok nodes) :
      Arrives rule statement hint name ⟨name, nodes, .binding primary⟩

theorem Arrives.table_eq {entry : TableRoute} (arrives : rule.Arrives statement hint name entry) :
    entry.table = name := by
  cases arrives with
  | leads leads => exact leads.table_eq
  | follows => rfl

theorem Arrives.leads_of_not_follows {entry : TableRoute}
    (arrives : rule.Arrives statement hint name entry)
    (apart : ¬ ∃ primary, rule.Follows statement hint name primary) :
    rule.Leads statement hint name entry := by
  cases arrives with
  | leads leads => exact leads
  | follows _ _ follows => exact absurd ⟨_, follows⟩ apart

/-- A table that stands alone is routed by its own strategies. -/
theorem Arrives.sharded_of_alone {table : TableRule} {entry : TableRoute}
    (arrives : rule.Arrives statement hint name entry) (ruled : rule.table? name = some table)
    (notBroadcast : rule.isBroadcast name = false) (alone : rule.group? name = none) :
    rule.audit table (decide (table.Conditioned (statement.conditionsOn name)))
        (decide (IsHinted hint name)) = .ok () ∧
      ∃ nodes, table.select (statement.conditionsOn name) hint = .ok nodes ∧
        entry = ⟨name, nodes, .sharded⟩ := by
  cases arrives with
  | leads leads =>
      cases leads with
      | broadcast broadcast => simp [broadcast] at notBroadcast
      | default _ unruled _ => simp [unruled] at ruled
      | sharded _ ownRuled _ audited selected =>
          rw [ruled] at ownRuled
          cases ownRuled
          exact ⟨audited, _, selected, rfl⟩
  | follows _ _ follows =>
      obtain ⟨key, keyed, _⟩ := groupKey?_isSome_of_primary? follows.1
      simp [groupKey?, alone] at keyed

section

variable {slots : List (Option TableRoute)}

theorem find?_leading
    (walked : statement.tableNames.mapM (rule.routeLeading statement hint) = .ok slots)
    (member : primary ∈ statement.tableNames)
    (leads : ¬ ∃ other, rule.Follows statement hint primary other) :
    ∃ entry, rule.Leads statement hint primary entry ∧
      (slots.filterMap id).find? (fun route => Name.Same route.table primary) = some entry := by
  have passed := mapM_eq_ok_iff.mp walked
  obtain ⟨slot, slotMember, routed⟩ := exists_right_of_mem passed member
  cases slot with
  | none => exact absurd (follows_of_routeLeading routed).2.2 leads
  | some own =>
      have ownLeads := leads_of_routeLeading routed
      have ownMember : own ∈ slots.filterMap id := List.mem_filterMap.mpr ⟨_, slotMember, rfl⟩
      have ownSame : Name.Same own.table primary := by
        rw [ownLeads.table_eq]
        exact Name.Same.refl primary
      obtain ⟨entry, entryMember, same, found⟩ := exists_find?_same ownMember ownSame
      refine ⟨entry, ?_, found⟩
      obtain ⟨entrySlot, entrySlotMember, rfl⟩ := List.mem_filterMap.mp entryMember
      obtain ⟨other, otherMember, otherRouted⟩ := exists_left_of_mem passed entrySlotMember
      have otherLeads := leads_of_routeLeading otherRouted
      rw [otherLeads.table_eq] at same
      cases statement.eq_of_same otherMember member same
      exact otherLeads

/-- The second pass finds the route of every primary. What is left of it are the audit of the
table and its nodes, one for each node of the primary. -/
theorem routeFollowing_eq
    (walked : statement.tableNames.mapM (rule.routeLeading statement hint) = .ok slots)
    (routed : rule.routeLeading statement hint name = .ok none) :
    ∃ (primary : String) (table primaryTable : TableRule) (nodes : List DataNode),
      rule.table? name = some table ∧ rule.Follows statement hint name primary ∧
      rule.table? primary = some primaryTable ∧
      rule.Leads statement hint primary ⟨primary, nodes, .sharded⟩ ∧
      rule.routeFollowing statement hint (slots.filterMap id) name = (do
        rule.audit table
          (decide (rule.IsConditioned statement name ∨ rule.IsConditioned statement primary))
          (decide (IsHinted hint name ∨ IsHinted hint primary))
        return ⟨name, ← table.follow primaryTable nodes, .binding primary⟩) := by
  obtain ⟨_, ⟨table, ruled⟩, primary, follows⟩ := follows_of_routeLeading routed
  obtain ⟨key, _, primaryMember⟩ := groupKey?_isSome_of_primary? follows.1
  obtain ⟨named, _, sharded, _⟩ := mem_members_iff.mp primaryMember
  obtain ⟨primaryTable, primaryRuled⟩ := Option.isSome_iff_exists.mp sharded
  obtain ⟨entry, leads, found⟩ := find?_leading walked named
    fun ⟨other, otherFollows⟩ => follows.primary_leads otherFollows
  obtain ⟨nodes, rfl⟩ := leads.eq_sharded follows.1
  refine ⟨primary, table, primaryTable, nodes, ruled, follows, primaryRuled, leads, ?_⟩
  simp only [routeFollowing, ruled, follows.1, primaryRuled, found]

theorem arrives_of_complete {slot : Option TableRoute} {entry : TableRoute}
    (walked : statement.tableNames.mapM (rule.routeLeading statement hint) = .ok slots)
    (routed : rule.routeLeading statement hint name = .ok slot)
    (completed : rule.complete statement hint (slots.filterMap id) (name, slot) = .ok entry) :
    rule.Arrives statement hint name entry := by
  cases slot with
  | some own =>
      cases completed
      exact .leads (leads_of_routeLeading routed)
  | none =>
      obtain ⟨primary, table, primaryTable, nodes, ruled, follows, primaryRuled, leads,
        following⟩ := routeFollowing_eq walked routed
      have notBroadcast := (follows_of_routeLeading routed).1
      simp only [complete, following, bind_eq_ok, pure_eq_ok] at completed
      obtain ⟨_, audited, _, followed, rfl⟩ := completed
      exact .follows notBroadcast ruled follows primaryRuled leads audited followed

end

/-! ## Whole routes -/

/-- A route has one entry for each table of its statement, in the order of the tables. -/
theorem arrives_of_route {route : Route} (free : hint.bind (·.dataSource) = none)
    (routed : rule.route statement hint = .ok route) :
    List.Forall₂ (rule.Arrives statement hint) statement.tableNames route.tables := by
  simp only [Rule.route, free, bind_eq_ok, pure_eq_ok] at routed
  obtain ⟨slots, walked, entries, completed, rfl⟩ := routed
  exact forall₂_of_zip (mapM_eq_ok_iff.mp walked) (mapM_eq_ok_iff.mp completed)
    fun _ _ _ _ => arrives_of_complete walked

theorem map_table_of_arrives {names : List String} {entries : List TableRoute}
    (arrived : List.Forall₂ (rule.Arrives statement hint) names entries) :
    entries.map (·.table) = names := by
  induction arrived with
  | nil => rfl
  | cons arrives _ ih => rw [List.map_cons, arrives.table_eq, ih]

/-- The route of a table of the statement is the one that is found under its name. -/
theorem find?_of_arrives {entries : List TableRoute}
    (arrived : List.Forall₂ (rule.Arrives statement hint) statement.tableNames entries)
    (member : name ∈ statement.tableNames) :
    ∃ entry, rule.Arrives statement hint name entry ∧
      entries.find? (fun route => Name.Same route.table name) = some entry := by
  obtain ⟨own, ownMember, ownArrives⟩ := exists_right_of_mem arrived member
  have ownSame : Name.Same own.table name := by
    rw [ownArrives.table_eq]
    exact Name.Same.refl name
  obtain ⟨entry, entryMember, entrySame, found⟩ := exists_find?_same ownMember ownSame
  obtain ⟨other, otherMember, arrives⟩ := exists_left_of_mem arrived entryMember
  rw [arrives.table_eq] at entrySame
  cases statement.eq_of_same otherMember member entrySame
  exact ⟨entry, arrives, found⟩

/-- The entry of a table is found under every spelling of its name. -/
theorem exists_table?_of_arrives {entries : List TableRoute}
    (arrived : List.Forall₂ (rule.Arrives statement hint) statement.tableNames entries)
    (named : statement.Names name) :
    ∃ first entry, Name.Same first name ∧ rule.Arrives statement hint first entry ∧
      entries.find? (fun route => Name.Same route.table name) = some entry := by
  obtain ⟨first, member, same⟩ := named.exists_tableName
  obtain ⟨entry, arrives, found⟩ := find?_of_arrives arrived member
  have sameTables : (fun route : TableRoute => decide (Name.Same route.table first)) =
      fun route => decide (Name.Same route.table name) := by
    funext route
    exact decide_eq_decide.mpr ⟨fun before => before.trans same, fun after => after.trans same.symm⟩
  rw [sameTables] at found
  exact ⟨first, entry, same, arrives, found⟩

/-- A table that stands alone is routed to what its own strategies select. -/
theorem select_of_alone {table : TableRule} {route : Route}
    (free : hint.bind (·.dataSource) = none) (routed : rule.route statement hint = .ok route)
    (named : statement.Names name) (ruled : rule.table? name = some table)
    (notBroadcast : rule.isBroadcast name = false) (alone : rule.group? name = none) :
    table.select (statement.conditionsOn name) hint = .ok (route.nodesFor name) := by
  obtain ⟨first, entry, same, arrives, found⟩ :=
    exists_table?_of_arrives (arrives_of_route free routed) named
  rw [← table?_congr same] at ruled
  rw [← isBroadcast_congr same] at notBroadcast
  rw [← group?_congr same] at alone
  obtain ⟨_, nodes, selected, rfl⟩ := arrives.sharded_of_alone ruled notBroadcast alone
  rw [← Statement.conditionsOn_congr same, selected, Route.nodesFor, Route.table?, found]
  rfl

/-- The only table of a statement leads, also if it belongs to a group. -/
theorem route_of_single {table : TableRule} (free : hint.bind (·.dataSource) = none)
    (alone : statement.tableNames = [name]) (notBroadcast : rule.isBroadcast name = false)
    (ruled : rule.table? name = some table) :
    rule.route statement hint = (do
      return {
        tables := [← rule.routeSharded statement hint name table]
        writeOnly := (hint.map (·.writeOnly)).getD false }) := by
  have leads : ¬ ∃ primary, rule.Follows statement hint name primary := by
    rintro ⟨primary, chosen, different⟩
    obtain ⟨_, _, member⟩ := groupKey?_isSome_of_primary? chosen
    have named := (mem_members_iff.mp member).1
    rw [alone, List.mem_singleton] at named
    rw [named] at different
    exact different (Name.Same.refl name)
  have leading : rule.routeLeading statement hint name = (do
      return some (← rule.routeSharded statement hint name table)) := by
    simp only [routeLeading, notBroadcast, Bool.false_eq_true, if_false, ruled,
      not_follows_iff.mp leads]
  simp only [route, free, alone, List.mapM_cons, List.mapM_nil, leading]
  cases rule.routeSharded statement hint name table <;> rfl

end Rule

end Sharding
