import Sharding.Proofs.Placement.Failures
import Sharding.Proofs.Rule.References

/-!
# Algorithms of this library

What a rule is set up with by a catalog that has the placements or the auditors of this library,
whatever else is registered there.
-/

set_option autoImplicit false

namespace Sharding

inductive Placement.Builtin : Placement → Prop where
  | inline (inline : Inline) : Builtin (.standard inline.placement)
  | interval (interval : Interval) : Builtin (.standard interval.placement)
  | volume (volume : Volume) : Builtin (.standard volume.placement)
  | complexInline (complex : ComplexInline) : Builtin (.complex complex.placement)
  | hintInline (hint : HintInline) : Builtin (.hint hint.placement)

theorem Placement.Builtin.failsOnly {placement : Placement} (builtin : placement.Builtin) :
    placement.FailsOnly (Error.HasKind .selection) := by
  cases builtin with
  | inline inline => exact inline.placement_failsOnly
  | interval interval => exact interval.placement_failsOnly
  | volume volume => exact volume.placement_failsOnly
  | complexInline complex => exact complex.placement_failsOnly
  | hintInline hint => exact hint.placement_failsOnly

namespace Catalog

variable {catalog : Catalog} {type : String} {properties : Properties}

theorem find_eq_ok {α : Type} {factories : NameMap α} {family : String} {factory : α}
    (found : find factories family type = .ok factory) :
    factories.get? (normalize type) = some factory := by
  unfold find at found
  split at found
  next known =>
    cases found
    exact known
  next => cases found

theorem placement_builtin {placement : Placement}
    (registered : catalog.placements = builtin.placements)
    (made : catalog.placement type properties = .ok placement) : placement.Builtin := by
  obtain ⟨factory, found, made⟩ := bind_eq_ok.mp made
  have known := find_eq_ok found
  rw [registered] at known
  have member := NameMap.mem_of_get?_ofList known
  simp only [List.mem_cons, Prod.mk.injEq, List.not_mem_nil, or_false] at member
  rcases member with ⟨_, rfl⟩ | ⟨_, rfl⟩ | ⟨_, rfl⟩ | ⟨_, rfl⟩ | ⟨_, rfl⟩
  all_goals
    obtain ⟨_, _, kept⟩ := bind_eq_ok.mp made
    cases kept
    constructor

theorem auditor_builtin {auditor : Auditor} (registered : catalog.auditors = builtin.auditors)
    (made : catalog.auditor type properties = .ok auditor) :
    auditor = Auditor.shardingConditions := by
  obtain ⟨factory, found, made⟩ := bind_eq_ok.mp made
  have known := find_eq_ok found
  rw [registered] at known
  have member := NameMap.mem_of_get?_ofList known
  simp only [List.mem_cons, Prod.mk.injEq, List.not_mem_nil, or_false] at member
  obtain ⟨_, rfl⟩ := member
  cases made
  rfl

end Catalog

namespace Rule.IsBuilt

variable {catalog : Catalog} {expand : String → Except Error (List DataNode)} {file : RuleFile}
  {rule : Rule} {name : String}

theorem algorithm_builtin (isBuilt : IsBuilt catalog expand file rule)
    (registered : catalog.placements = Catalog.builtin.placements) {placement : Placement}
    (found : rule.algorithms.get? name = some placement) : placement.Builtin := by
  obtain ⟨_, _, made⟩ := setUp_origin isBuilt.algorithms found
  exact Catalog.placement_builtin registered made

theorem auditor_builtin (isBuilt : IsBuilt catalog expand file rule)
    (registered : catalog.auditors = Catalog.builtin.auditors) {auditor : Auditor}
    (found : rule.auditors.get? name = some auditor) :
    auditor = Auditor.shardingConditions := by
  obtain ⟨_, _, made⟩ := setUp_origin isBuilt.auditors found
  exact Catalog.auditor_builtin registered made

/-- Where no other auditors are registered, no other one is found. -/
theorem auditors_found (isBuilt : IsBuilt catalog expand file rule)
    (registered : catalog.auditors = Catalog.builtin.auditors) {table : TableRule}
    (ruled : rule.table? name = some table) :
    ∀ entry ∈ table.audit, ∀ auditor ∈ entry.auditors,
      rule.auditors.get? auditor = some Auditor.shardingConditions := by
  intro entry given auditor listed
  obtain ⟨_, found⟩ := isBuilt.auditor_known ruled entry given auditor listed
  rw [found, isBuilt.auditor_builtin registered found]

end Rule.IsBuilt

end Sharding
