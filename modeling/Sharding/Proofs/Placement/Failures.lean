import Sharding.Placement.Inline
import Sharding.Placement.Interval
import Sharding.Placement.Volume
import Sharding.Proofs.Outcome

/-!
# Failures of placements

The placements of this library fail for one reason only: they cannot place the values they are
given. Whatever a template or a reading of a value runs into is reported as that.
-/

set_option autoImplicit false

namespace Sharding

def Error.HasKind (kind : Error.Kind) (error : Error) : Prop :=
  error.kind = kind

/-- The selections of a placement fail with none but certain errors. -/
inductive Placement.FailsOnly (allowed : Error → Prop) : Placement → Prop where
  | standard {placement : StandardPlacement}
      (equal : ∀ candidates column value,
        Sharding.FailsOnly allowed (placement.selectEqual candidates column value))
      (within : ∀ candidates column range,
        Sharding.FailsOnly allowed (placement.selectWithin candidates column range)) :
      FailsOnly allowed (.standard placement)
  | complex {placement : ComplexPlacement}
      (select : ∀ candidates predicates,
        Sharding.FailsOnly allowed (placement.select candidates predicates)) :
      FailsOnly allowed (.complex placement)
  | hint {placement : HintPlacement}
      (select : ∀ candidates values,
        Sharding.FailsOnly allowed (placement.select candidates values)) :
      FailsOnly allowed (.hint placement)

theorem Template.target_failsOnly (template : Template) (type : String) (bindings : Bindings) :
    FailsOnly (Error.HasKind .selection) (template.target type bindings) := by
  unfold Template.target
  cases template.evaluate bindings with
  | ok name => exact .ok name
  | error fault => exact .error rfl

/-! ## By template -/

namespace Inline

theorem collect_failsOnly (inline : Inline) (column : String) (keys : List String) (count : Nat)
    (start : Int) (found : List String) :
    FailsOnly (Error.HasKind .selection) (inline.collect column keys count start found) := by
  induction count generalizing start found with
  | zero => exact .ok found
  | succ count ih =>
      refine (Template.target_failsOnly _ _ _).bind fun target _ => ?_
      exact .ite (.ok _) (ih _ _)

theorem placement_failsOnly (inline : Inline) :
    Placement.FailsOnly (Error.HasKind .selection) (.standard inline.placement) := by
  refine .standard (fun candidates column value => ?_) fun candidates column range => ?_
  · exact (Template.target_failsOnly _ _ _).map _
  · change FailsOnly _ (inline.selectWithin candidates column range)
    unfold selectWithin
    split
    · exact .error rfl
    · refine .ite (.ok _) (.ite (.ok _) ?_)
      exact (collect_failsOnly _ _ _ _ _ _).map _
    · exact .ok _

end Inline

namespace ComplexInline

theorem columnValues_failsOnly (columns : Nat) (column : String) (predicate : Option Predicate) :
    FailsOnly (Error.HasKind .selection) (columnValues columns column predicate) := by
  unfold columnValues
  split
  · exact .ok _
  · exact .ok _
  · exact .error rfl
  · exact .error rfl

theorem extend_failsOnly (complex : ComplexInline) (predicates : NameMap Predicate)
    (combinations : List (List Value)) (column : String) :
    FailsOnly (Error.HasKind .selection) (complex.extend predicates combinations column) := by
  refine (columnValues_failsOnly _ _ _).bind fun values _ => ?_
  exact .ite (.error rfl) (.ok _)

theorem placement_failsOnly (complex : ComplexInline) :
    Placement.FailsOnly (Error.HasKind .selection) (.complex complex.placement) := by
  refine .complex fun candidates predicates => ?_
  refine (FailsOnly.foldlM (extend_failsOnly complex predicates) _).bind fun combinations _ => ?_
  exact (FailsOnly.mapM fun combination _ => Template.target_failsOnly _ _ _).map _

end ComplexInline

theorem HintInline.placement_failsOnly (hint : HintInline) :
    Placement.FailsOnly (Error.HasKind .selection) (.hint hint.placement) := by
  refine .hint fun candidates values => ?_
  exact (FailsOnly.mapM fun value _ => Template.target_failsOnly _ _ _).map _

/-! ## By number -/

namespace Volume

theorem placement_failsOnly (v : Volume) :
    Placement.FailsOnly (Error.HasKind .selection) (.standard v.placement) := by
  refine .standard (fun candidates column value => ?_) fun candidates column range => ?_
  · change FailsOnly _ (v.selectEqual candidates column value)
    unfold selectEqual
    split
    · exact .ok _
    · exact .error rfl
  · change FailsOnly _ (v.selectWithin candidates column range)
    unfold selectWithin
    split
    · exact .error rfl
    · exact .ite (.ok _) (.ok _)

end Volume

namespace Interval

theorem bucketOfValue_failsOnly (interval : Interval) (value : Value) :
    FailsOnly (Error.HasKind .selection) (interval.bucketOfValue value) := by
  unfold bucketOfValue
  split
  · exact .ok _
  · exact .error rfl

theorem endBucket_failsOnly (interval : Interval) (bound : Bound) (default : Nat) :
    FailsOnly (Error.HasKind .selection) (interval.endBucket bound default) := by
  unfold endBucket
  split
  · exact bucketOfValue_failsOnly _ _
  · exact .ok _

theorem placement_failsOnly (interval : Interval) :
    Placement.FailsOnly (Error.HasKind .selection) (.standard interval.placement) := by
  refine .standard (fun candidates column value => ?_) fun candidates column range => ?_
  · exact (bucketOfValue_failsOnly _ _).map _
  · refine (endBucket_failsOnly _ _ _).bind fun first _ => ?_
    exact (endBucket_failsOnly _ _ _).map _

end Interval

end Sharding
