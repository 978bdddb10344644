import Sharding.Proofs.Placement.Failures
import Sharding.Proofs.Route.Passes
import Sharding.Proofs.Rule.References

/-!
# Failures of routes

With which errors a statement may fail to be routed, given those of the placements and of the
audits.
-/

set_option autoImplicit false

namespace Sharding

variable {allowed : Error → Prop}

theorem Placement.FailsOnly.imp {placement : Placement} {permitted : Error → Prop}
    (within : placement.FailsOnly allowed) (wider : ∀ error, allowed error → permitted error) :
    placement.FailsOnly permitted := by
  cases within with
  | standard equal within =>
      exact .standard (fun _ _ _ => (equal _ _ _).imp wider) fun _ _ _ => (within _ _ _).imp wider
  | complex select => exact .complex fun _ _ => (select _ _).imp wider
  | hint select => exact .hint fun _ _ => (select _ _).imp wider

/-! ## Selections -/

theorem selectAny_failsOnly {α : Type} {select : α → Except Error (Option (List String))}
    (each : ∀ alternative, FailsOnly allowed (select alternative)) (alternatives : List α) :
    FailsOnly allowed (selectAny select alternatives) := by
  induction alternatives with
  | nil => exact .ok _
  | cons alternative rest ih =>
      refine (each alternative).bind fun selected _ => ?_
      cases selected with
      | none => exact .ok _
      | some names =>
          refine ih.bind fun others _ => ?_
          cases others with
          | none => exact .ok _
          | some others => exact .ok _

theorem selectBy_failsOnly {select : Condition → Except Error (Option (List String))}
    (each : ∀ alternative, FailsOnly allowed (select alternative)) (alternatives : List Condition) :
    FailsOnly allowed (selectBy select alternatives) := by
  cases alternatives with
  | nil => exact .ok _
  | cons first rest => exact selectAny_failsOnly each (first :: rest)

theorem StandardPlacement.selectAmong_failsOnly {placement : StandardPlacement}
    (equal : ∀ candidates column value,
      FailsOnly allowed (placement.selectEqual candidates column value))
    (candidates : List String) (column : String) (values : List Value) :
    FailsOnly allowed (placement.selectAmong candidates column values) :=
  (FailsOnly.mapM fun value _ => equal candidates column value).map _

namespace Strategy

variable {strategy : Strategy} {table : String}

theorem selected_failsOnly
    (placing : ∀ placement ∈ strategy.placement?, placement.FailsOnly allowed)
    (mismatched : ∀ fault, allowed (.mismatch table fault)) (candidates : List String)
    (evidence : Evidence) : FailsOnly allowed (strategy.selected table candidates evidence) := by
  cases strategy with
  | unsharded => exact .ok none
  | hint algorithm placement =>
      cases placing _ rfl with
      | hint select =>
          cases evidence with
          | conditions alternatives => exact .ok none
          | hinted values => exact (select candidates values).map _
  | standard column algorithm placement =>
      cases placing _ rfl with
      | standard equal within =>
          have among := StandardPlacement.selectAmong_failsOnly equal candidates column
          cases evidence with
          | hinted values => exact (among values).map _
          | conditions alternatives =>
              refine selectBy_failsOnly (fun condition => ?_) alternatives
              unfold selectColumn
              split
              · exact .ok none
              next predicate _ =>
                refine FailsOnly.map ?_ _
                cases predicate with
                | equal value => exact among [value]
                | within range => exact within candidates column range
                | among values => exact among values
  | complex columns algorithm placement =>
      cases placing _ rfl with
      | complex select =>
          cases evidence with
          | hinted values => exact .error (mismatched _)
          | conditions alternatives =>
              refine selectBy_failsOnly (fun condition => ?_) alternatives
              exact .ite (.ok none) ((select candidates _).map _)

theorem allowed_mismatch {error : Error} (mismatched : ∀ fault, allowed (.mismatch table fault))
    (within : error.HasKind .selection ∨ allowed error) : allowed (mismatch table error) := by
  cases error with
  | selection type fault => exact mismatched _
  | _ =>
      rcases within with selection | permitted
      · cases selection
      · exact permitted

/-- What a placement cannot select is a mismatch of the table that is routed. -/
theorem select_failsOnly
    (placing : ∀ placement ∈ strategy.placement?,
      placement.FailsOnly fun error => error.HasKind .selection ∨ allowed error)
    (mismatched : ∀ fault, allowed (.mismatch table fault)) (candidates : List String)
    (evidence : Evidence) : FailsOnly allowed (strategy.select table candidates evidence) := by
  have selected := selected_failsOnly placing (fun fault => .inr (mismatched fault)) candidates
    evidence
  unfold select
  split
  next error failed => exact .error (allowed_mismatch mismatched (selected error failed))
  next => exact .ok _
  next => exact .ok _

end Strategy

/-- Errors of a kind that the routing of any table may end with. -/
structure Admits (allowed : Error → Prop) : Prop where
  mismatch : ∀ table fault, allowed (.mismatch table fault)
  noTarget : ∀ table, allowed (.noTarget table)
  noDefault : ∀ table, allowed (.noDefault table)

namespace TableRule

theorem select_failsOnly {table : TableRule} (admits : Admits allowed)
    (placing : ∀ placement, table.Places placement →
      placement.FailsOnly fun error => error.HasKind .selection ∨ allowed error)
    (conditions : List Condition) (hint : Option Hint) :
    FailsOnly allowed (table.select conditions hint) := by
  have database := Strategy.select_failsOnly
    (fun placement used => placing placement (.inl used)) (admits.mismatch table.logicTable)
  have own := Strategy.select_failsOnly
    (fun placement used => placing placement (.inr used)) (admits.mismatch table.logicTable)
  refine (database _ _).bind fun dataSources _ => ?_
  refine (FailsOnly.mapM fun dataSource _ => (own _ _).map _).bind fun nodes _ => ?_
  exact .ite (.error (admits.noTarget _)) (.ok _)

theorem follow_failsOnly {follower primary : TableRule} (admits : Admits allowed)
    (nodes : List DataNode) : FailsOnly allowed (follower.follow primary nodes) := by
  unfold follow
  split
  · exact .ok _
  · exact .error (admits.noTarget _)

end TableRule

/-! ## Routes -/

namespace Rule

variable {rule : Rule} {statement : Statement} {hint : Option Hint} {name : String}

/-- The audits that the routing of a statement asks for, one for each sharded table. -/
inductive Audits (rule : Rule) (statement : Statement) (hint : Option Hint) (name : String)
    (table : TableRule) : Bool → Bool → Prop where
  | leading (notBroadcast : rule.isBroadcast name = false)
      (ruled : rule.table? name = some table)
      (leads : ¬ ∃ primary, rule.Follows statement hint name primary) :
      Audits rule statement hint name table
        (decide (table.Conditioned (statement.conditionsOn name))) (decide (IsHinted hint name))
  | following {primary : String} (notBroadcast : rule.isBroadcast name = false)
      (ruled : rule.table? name = some table)
      (follows : rule.Follows statement hint name primary) :
      Audits rule statement hint name table
        (decide (rule.IsConditioned statement name ∨ rule.IsConditioned statement primary))
        (decide (IsHinted hint name ∨ IsHinted hint primary))

theorem Audits.table?_eq {table : TableRule} {conditioned hinted : Bool}
    (audits : rule.Audits statement hint name table conditioned hinted) :
    rule.table? name = some table := by
  cases audits with
  | leading _ ruled _ => exact ruled
  | following _ ruled _ => exact ruled

theorem Audits.notBroadcast {table : TableRule} {conditioned hinted : Bool}
    (audits : rule.Audits statement hint name table conditioned hinted) :
    rule.isBroadcast name = false := by
  cases audits with
  | leading notBroadcast _ _ => exact notBroadcast
  | following notBroadcast _ _ => exact notBroadcast

/-- The placements and the audits that a statement needs fail with allowed errors. -/
structure Guarded (rule : Rule) (statement : Statement) (hint : Option Hint)
    (allowed : Error → Prop) : Prop where
  admits : Admits allowed
  places : ∀ name table, rule.table? name = some table → ∀ placement, table.Places placement →
    placement.FailsOnly fun error => error.HasKind .selection ∨ allowed error
  audits : ∀ name ∈ statement.tableNames, ∀ table conditioned hinted,
    rule.Audits statement hint name table conditioned hinted →
    FailsOnly allowed (rule.audit table conditioned hinted)

namespace Guarded

theorem routeLeading (guarded : rule.Guarded statement hint allowed)
    (named : name ∈ statement.tableNames) :
    FailsOnly allowed (rule.routeLeading statement hint name) := by
  unfold Rule.routeLeading
  cases broadcast : rule.isBroadcast name with
  | true => exact .ok _
  | false =>
      rw [if_neg Bool.false_ne_true]
      cases ruled : rule.table? name with
      | none =>
          refine FailsOnly.map ?_ some
          unfold routeDefault
          split
          · exact .ok _
          · exact .error (guarded.admits.noDefault name)
      | some table =>
          dsimp only
          split
          · exact .ok none
          next leads =>
            have audit := Audits.leading broadcast ruled
              (not_follows_iff.mpr (Bool.eq_false_iff.mpr leads))
            refine FailsOnly.map ?_ some
            refine (guarded.audits name named _ _ _ audit).bind fun _ _ => ?_
            exact (TableRule.select_failsOnly guarded.admits
              (guarded.places name table ruled) _ _).map _

theorem complete {slots : List (Option TableRoute)} {slot : Option TableRoute}
    (guarded : rule.Guarded statement hint allowed) (named : name ∈ statement.tableNames)
    (walked : statement.tableNames.mapM (rule.routeLeading statement hint) = .ok slots)
    (routed : rule.routeLeading statement hint name = .ok slot) :
    FailsOnly allowed (rule.complete statement hint (slots.filterMap id) (name, slot)) := by
  cases slot with
  | some own => exact .ok own
  | none =>
      obtain ⟨primary, table, primaryTable, nodes, ruled, follows, _, _, following⟩ :=
        routeFollowing_eq walked routed
      have audit := Audits.following (follows_of_routeLeading routed).1 ruled follows
      rw [Rule.complete, following]
      refine (guarded.audits name named _ _ _ audit).bind fun _ _ => ?_
      exact (TableRule.follow_failsOnly guarded.admits _).map _

theorem route (guarded : rule.Guarded statement hint allowed) :
    FailsOnly allowed (rule.route statement hint) := by
  unfold Rule.route
  dsimp only
  split
  · exact .ite (.ok _) (.error (guarded.admits.mismatch _ _))
  · refine (FailsOnly.mapM fun name => guarded.routeLeading).bind fun slots walked => ?_
    refine FailsOnly.map (FailsOnly.mapM fun pair member => ?_) _
    obtain ⟨name, slot⟩ := pair
    have routed := List.forall₂_zip (mapM_eq_ok_iff.mp walked) member
    exact guarded.complete (List.of_mem_zip member).1 walked routed

end Guarded

end Rule

end Sharding
