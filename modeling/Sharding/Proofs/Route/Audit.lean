import Sharding.Proofs.Catalog
import Sharding.Proofs.Route.Binding
import Sharding.Proofs.Route.Failures

/-!
# Audits of statements

A forced audit stops a table that neither a sharding condition nor a hint reaches, and no other
one. A table is reached by itself or through any table of its group in the statement, although
the audits look at no table but the audited one and the leader of its group.
-/

set_option autoImplicit false

namespace Sharding.Rule

variable {rule : Rule} {statement : Statement} {hint : Option Hint} {group : List String}
  {name primary : String} {table : TableRule} {conditioned hinted : Bool}

/-! ## Single audits -/

theorem audit_eq_ok_iff :
    rule.audit table conditioned hinted = .ok () ↔
      ∀ entry ∈ table.audit, entry.force = true →
        (entry.auditors = [] → conditioned = true ∨ hinted = true) ∧
        ∀ auditor ∈ entry.auditors,
          rule.auditBy ⟨table.logicTable, conditioned, hinted⟩ auditor = .ok () := by
  unfold audit
  cases table.audit with
  | none => simp
  | some entry =>
      cases force : entry.force with
      | false => simp [force]
      | true =>
          by_cases bare : entry.auditors = [] <;> cases conditioned <;> cases hinted <;>
            simp [force, bare, ← forM_eq_ok_iff, List.forM_eq_forM, pure_eq_ok]

theorem auditBy_eq_ok_iff {auditor : String}
    (known : rule.auditors.get? auditor = some Auditor.shardingConditions) {logicTable : String} :
    rule.auditBy ⟨logicTable, conditioned, hinted⟩ auditor = .ok () ↔
      conditioned = true ∨ hinted = true := by
  rw [auditBy, known]
  cases conditioned <;> cases hinted <;> simp [Auditor.shardingConditions]

/-- With the auditors of this library an audit depends on nothing but whether it is forced. -/
theorem audit_eq_ok_iff_forced
    (known : ∀ entry ∈ table.audit, ∀ auditor ∈ entry.auditors,
      rule.auditors.get? auditor = some Auditor.shardingConditions) :
    rule.audit table conditioned hinted = .ok () ↔
      ((∃ entry ∈ table.audit, entry.force = true) → conditioned = true ∨ hinted = true) := by
  rw [audit_eq_ok_iff]
  constructor
  · rintro passed ⟨entry, given, force⟩
    obtain ⟨bare, audited⟩ := passed entry given force
    cases listed : entry.auditors with
    | nil => exact bare listed
    | cons auditor rest =>
        have member : auditor ∈ entry.auditors := listed ▸ List.mem_cons_self
        exact (auditBy_eq_ok_iff (known entry given auditor member)).mp (audited auditor member)
  · intro reached entry given force
    have verdict := reached ⟨entry, given, force⟩
    refine ⟨fun _ => verdict, fun auditor listed => ?_⟩
    exact (auditBy_eq_ok_iff (known entry given auditor listed)).mpr verdict

/-! ## Reached tables -/

/-- A sharding condition or a hint reaches a table or another table of its group. -/
def Reached (rule : Rule) (statement : Statement) (hint : Option Hint) (name : String) : Prop :=
  rule.IsDriven statement hint name ∨
    ∃ group ∈ rule.group? name, ∃ member ∈ statement.membersOf group,
      rule.IsDriven statement hint member

instance (rule : Rule) (statement : Statement) (hint : Option Hint) (name : String) :
    Decidable (rule.Reached statement hint name) :=
  inferInstanceAs (Decidable (_ ∨ ∃ group ∈ rule.group? name, ∃ member ∈ statement.membersOf group,
    rule.IsDriven statement hint member))

/-- A table is sharded, and its audit is forced. -/
def Forced (rule : Rule) (name : String) : Prop :=
  rule.isBroadcast name = false ∧
    ∃ table ∈ rule.table? name, ∃ entry ∈ table.audit, entry.force = true

instance (rule : Rule) (name : String) : Decidable (rule.Forced name) :=
  inferInstanceAs (Decidable (_ ∧ ∃ table ∈ rule.table? name, ∃ entry ∈ table.audit,
    entry.force = true))

theorem exists_driven_leader {member : String} (inside : member ∈ statement.membersOf group)
    (driven : rule.IsDriven statement hint member) :
    ∃ leader, rule.leader? statement hint group = some leader ∧
      rule.IsDriven statement hint leader := by
  have found : ((statement.membersOf group).find? fun other =>
      rule.IsDriven statement hint other).isSome :=
    List.find?_isSome.mpr ⟨member, inside, decide_eq_true driven⟩
  obtain ⟨leader, foundLeader⟩ := Option.isSome_iff_exists.mp found
  refine ⟨leader, ?_, by simpa using List.find?_some foundLeader⟩
  rw [leader?, foundLeader]
  rfl

/-- Of the other tables of a group, it is enough to look at the primary. -/
theorem Grouped.reached_iff (grouped : rule.Grouped) :
    rule.Reached statement hint name ↔ rule.IsDriven statement hint name ∨
      ∃ primary ∈ rule.primary? statement hint name, rule.IsDriven statement hint primary := by
  refine or_congr_right ⟨?_, ?_⟩
  · rintro ⟨group, found, member, inside, driven⟩
    obtain ⟨groupMember, own⟩ := group?_eq_some found
    obtain ⟨leader, leads, leaderDriven⟩ := exists_driven_leader inside driven
    exact ⟨leader, (grouped.primary?_eq groupMember own).trans leads, leaderDriven⟩
  · rintro ⟨primary, chosen, driven⟩
    obtain ⟨_, keyed, _⟩ := groupKey?_isSome_of_primary? chosen
    obtain ⟨group, found, _⟩ := Option.bind_eq_some_iff.mp keyed
    obtain ⟨groupMember, own⟩ := group?_eq_some found
    rw [grouped.primary?_eq groupMember own] at chosen
    exact ⟨group, found, primary, mem_membersOf_of_leader? chosen, driven⟩

/-- What an audit is told is whether the table is reached. -/
theorem Audits.reached_iff (audits : rule.Audits statement hint name table conditioned hinted)
    (grouped : rule.Grouped) (named : name ∈ statement.tableNames) :
    conditioned = true ∨ hinted = true ↔ rule.Reached statement hint name := by
  rw [grouped.reached_iff]
  cases audits with
  | leading _ ruled leads =>
      have own : rule.IsDriven statement hint name ↔
          table.Conditioned (statement.conditionsOn name) ∨ IsHinted hint name := by
        simp [IsDriven, IsConditioned, ruled]
      rw [decide_eq_true_iff, decide_eq_true_iff, own]
      refine ⟨Or.inl, ?_⟩
      rintro (driven | ⟨primary, chosen, driven⟩)
      · exact driven
      · have same : Name.Same primary name :=
          Classical.byContradiction fun different => leads ⟨primary, chosen, different⟩
        obtain ⟨_, _, member⟩ := groupKey?_isSome_of_primary? chosen
        cases statement.eq_of_same (mem_members_iff.mp member).1 named same
        exact own.mp driven
  | following _ _ follows =>
      simp only [decide_eq_true_iff, follows.1, Option.mem_def, Option.some.injEq,
        exists_eq_left', IsDriven]
      exact or_or_or_comm

/-! ## Statements -/

theorem Leads.audited {entry : TableRoute} (leads : rule.Leads statement hint name entry)
    (notBroadcast : rule.isBroadcast name = false) (ruled : rule.table? name = some table) :
    ∃ conditioned hinted, rule.Audits statement hint name table conditioned hinted ∧
      rule.audit table conditioned hinted = .ok () := by
  cases leads with
  | broadcast broadcast => simp [broadcast] at notBroadcast
  | default _ unruled _ => simp [unruled] at ruled
  | sharded _ ownRuled leads audited _ =>
      rw [ruled] at ownRuled
      cases ownRuled
      exact ⟨_, _, .leading notBroadcast ruled leads, audited⟩

theorem Arrives.audited {entry : TableRoute} (arrives : rule.Arrives statement hint name entry)
    (notBroadcast : rule.isBroadcast name = false) (ruled : rule.table? name = some table) :
    ∃ conditioned hinted, rule.Audits statement hint name table conditioned hinted ∧
      rule.audit table conditioned hinted = .ok () := by
  cases arrives with
  | leads leads => exact leads.audited notBroadcast ruled
  | follows _ ownRuled follows _ _ audited _ =>
      rw [ruled] at ownRuled
      cases ownRuled
      exact ⟨_, _, .following notBroadcast ruled follows, audited⟩

/-- An algorithm of the rule itself fails with an error. -/
def Raises (rule : Rule) (error : Error) : Prop :=
  ∃ name placement, rule.algorithms.get? name = some placement ∧
    ¬ placement.FailsOnly fun other => other ≠ error

section

variable {catalog : Catalog} {expand : String → Except Error (List DataNode)} {file : RuleFile}

theorem IsBuilt.audit_eq_ok_iff (isBuilt : IsBuilt catalog expand file rule)
    (registered : catalog.auditors = Catalog.builtin.auditors)
    (audits : rule.Audits statement hint name table conditioned hinted)
    (named : name ∈ statement.tableNames) :
    rule.audit table conditioned hinted = .ok () ↔
      (rule.Forced name → rule.Reached statement hint name) := by
  have known := isBuilt.auditors_found registered audits.table?_eq
  have forced : rule.Forced name ↔ ∃ entry ∈ table.audit, entry.force = true := by
    simp [Forced, audits.table?_eq, audits.notBroadcast]
  rw [audit_eq_ok_iff_forced known, audits.reached_iff isBuilt.grouped named, forced]

theorem IsBuilt.not_raises_audit (isBuilt : IsBuilt catalog expand file rule)
    (registered : catalog.placements = Catalog.builtin.placements) (logicTable auditor : String) :
    ¬ rule.Raises (.audit logicTable auditor) := by
  rintro ⟨_, _, found, raised⟩
  refine raised ((isBuilt.algorithm_builtin registered found).failsOnly.imp ?_)
  rintro _ kind rfl
  cases kind

theorem IsBuilt.guarded_of_reached {logicTable auditor : String}
    (isBuilt : IsBuilt catalog expand file rule)
    (registered : catalog.auditors = Catalog.builtin.auditors)
    (reached : ∀ name ∈ statement.tableNames,
      rule.Forced name → rule.Reached statement hint name)
    (silent : ¬ rule.Raises (.audit logicTable auditor)) :
    rule.Guarded statement hint (· ≠ .audit logicTable auditor) where
  admits := by constructor <;> simp
  places name table ruled placement places := by
    obtain ⟨algorithm, found⟩ := isBuilt.places_known ruled places
    have within : placement.FailsOnly (· ≠ .audit logicTable auditor) :=
      Classical.byContradiction fun fails => silent ⟨algorithm, placement, found, fails⟩
    exact within.imp fun _ => Or.inr
  audits name named table conditioned hinted audits := by
    rw [(isBuilt.audit_eq_ok_iff registered audits named).mpr (reached name named)]
    exact .ok ()

/-- With the auditors of this library a statement fails if the audit of one of its tables is forced
and the table is not reached. If all tables with a forced audit are reached, no audit is ever the
reason that a statement fails: an error that reads like one comes from an algorithm, and from none
of this library. -/
theorem forced_audits_are_exact (built : build catalog expand file = .ok rule)
    (registered : catalog.auditors = Catalog.builtin.auditors)
    (free : hint.bind (·.dataSource) = none) :
    ((∃ name ∈ statement.tableNames, rule.Forced name ∧ ¬ rule.Reached statement hint name) →
      ∃ error, rule.route statement hint = .error error) ∧
    ((∀ name ∈ statement.tableNames, rule.Forced name → rule.Reached statement hint name) →
      ∀ logicTable auditor, rule.route statement hint = .error (.audit logicTable auditor) →
        rule.Raises (.audit logicTable auditor) ∧
          catalog.placements ≠ Catalog.builtin.placements) := by
  have isBuilt := isBuilt_of_build built
  constructor
  · rintro ⟨name, named, forced, unreached⟩
    cases routed : rule.route statement hint with
    | error error => exact ⟨error, rfl⟩
    | ok route =>
        have ⟨notBroadcast, table, ruled, _⟩ := forced
        obtain ⟨_, _, arrives⟩ := exists_right_of_mem (arrives_of_route free routed) named
        obtain ⟨_, _, audits, passed⟩ := arrives.audited notBroadcast ruled
        exact absurd ((isBuilt.audit_eq_ok_iff registered audits named).mp passed forced) unreached
  · intro reached logicTable auditor failed
    have raised : rule.Raises (.audit logicTable auditor) :=
      Classical.byContradiction fun silent =>
        (isBuilt.guarded_of_reached registered reached silent).route _ failed rfl
    exact ⟨raised, fun builtin => isBuilt.not_raises_audit builtin _ _ raised⟩

end

private def pairEntry (pattern : String) (audit : AuditEntry) : TableEntry :=
  ⟨some pattern, none, some { standard := some ⟨some "order_id", "volume"⟩ }, none, some audit⟩

/-- Two tables of one group whose audits are forced, one of them without an auditor. -/
private def pairFile : RuleFile where
  dataSources := ["ds"]
  tables := .ofList
    [("t_item", pairEntry "ds.i_$\x7b0..2\x7d" ⟨[], true⟩),
      ("t_order", pairEntry "ds.o_$\x7b0..2\x7d" ⟨["condition"], true⟩)]
  bindingTables := ["t_order, t_item"]
  algorithms := .ofList
    [("volume", ⟨"VOLUME_RANGE", .ofList
      [("range-lower", "0"), ("range-upper", "20"), ("sharding-volume", "20")]⟩)]
  auditors := .ofList [("condition", ⟨"DML_SHARDING_CONDITIONS", .empty⟩)]

private def openStatement : Statement where
  tables := ["t_order", "t_item"]

/-- The condition on the second table reaches the first one as well. -/
private def reachedStatement : Statement where
  tables := ["t_order", "t_item"]
  conditions := [⟨"t_item", [⟨"order_id", .equal (.int 12)⟩]⟩]

theorem pair_audits_are_exact :
    ∃ rule, build .builtin DataNode.expand pairFile = .ok rule ∧
      ((∃ name ∈ openStatement.tableNames,
          rule.Forced name ∧ ¬ rule.Reached openStatement none name) ∧
        ∃ error, rule.route openStatement none = .error error) ∧
      (∀ name ∈ reachedStatement.tableNames,
        rule.Forced name → rule.Reached reachedStatement none name) ∧
      ∀ logicTable auditor,
        rule.route reachedStatement none ≠ .error (.audit logicTable auditor) := by
  have run : (build .builtin DataNode.expand pairFile >>= fun rule => pure (decide
      ((∃ name ∈ openStatement.tableNames,
          rule.Forced name ∧ ¬ rule.Reached openStatement none name) ∧
        ∀ name ∈ reachedStatement.tableNames,
          rule.Forced name → rule.Reached reachedStatement none name))) = .ok true := by
    decide +kernel
  obtain ⟨rule, built, unreached, reached⟩ := exists_of_decided run
  have stopped := (forced_audits_are_exact built rfl rfl).1 unreached
  have free := (forced_audits_are_exact built rfl rfl).2 reached
  refine ⟨rule, built, ⟨unreached, stopped⟩, reached, fun logicTable auditor failed => ?_⟩
  exact (free logicTable auditor failed).2 rfl

end Sharding.Rule
