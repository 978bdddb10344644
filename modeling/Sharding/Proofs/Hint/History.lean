import Mathlib.Data.List.DropRight
import Sharding.Proofs.Outcome
import Sharding.Route

/-!
# Hints and their history

What the hint of the work in progress says is what its operations have said since they last started
over, and nothing of an earlier piece of work. Each reading of a hint is compared with the list of
all operations so far that have succeeded, on whatever run of a context that was free at first.
-/

set_option autoImplicit false

namespace Sharding

/-! ## Histories -/

section

variable {α β : Type}

/-- The items behind the last one that starts over. -/
def since (startsOver : α → Bool) (items : List α) : List α :=
  items.rtakeWhile fun item => !startsOver item

def latest? (among : α → Bool) (items : List α) : Option α :=
  (items.filter among).getLast?

theorem filterMap_since_concat (startsOver : α → Bool) (read : α → Option β) (items : List α)
    (item : α) :
    (since startsOver (items ++ [item])).filterMap read =
      if startsOver item then []
      else (since startsOver items).filterMap read ++ (read item).toList := by
  rw [since, List.rtakeWhile_concat]
  cases startsOver item with
  | true => rfl
  | false =>
      cases found : read item <;> simp [since, found]

theorem latest?_concat (among : α → Bool) (items : List α) (item : α) :
    latest? among (items ++ [item]) = if among item then some item else latest? among items := by
  cases counts : among item <;> simp [latest?, List.filter_append, counts]

end

namespace HintContext.Operation

/-! ## What operations say -/

def takesOrLeaves : Operation → Bool
  | .acquire | .release => true
  | _ => false

def forgetsAll : Operation → Bool
  | .acquire | .change .clear => true
  | _ => false

/-- No value for a table outlasts the operation. -/
def forgetsValues : Operation → Bool
  | .change (.databaseOnly _) => true
  | operation => operation.forgetsAll

def settlesMode : Operation → Bool
  | .change (.database _ _) | .change (.table _ _) => true
  | operation => operation.forgetsValues

def databaseValue? (table : String) : Operation → Option Value
  | .change (.database other value) => if Name.Same other table then some value else none
  | _ => none

def tableValue? (table : String) : Operation → Option Value
  | .change (.table other value) => if Name.Same other table then some value else none
  | _ => none

def everyValue? : Operation → Option Value
  | .change (.databaseOnly value) => some value
  | _ => none

def writeOnly? : Operation → Option Bool
  | .change .writeOnly => some true
  | .change .readWrite => some false
  | _ => none

def dataSource? : Operation → Option String
  | .change (.dataSource dataSource) => some dataSource
  | _ => none

/-- A value for the data source of a table is under a name that is not empty. -/
def Keyed : Operation → Prop
  | .change (.database table _) => table ≠ ""
  | _ => True

instance (operation : Operation) : Decidable operation.Keyed := by
  unfold Keyed
  split <;> infer_instance

end HintContext.Operation

open HintContext (Operation)

/-! ## Single changes -/

theorem Name.fold_eq_empty_iff {name : String} : Name.fold name = "" ↔ name = "" := by
  rw [← String.toList_inj, Name.fold, String.toList_map, ← String.toList_inj]
  exact List.map_eq_nil_iff

namespace Hint

variable {hint : Hint} {table : String}

theorem get?_append (values : NameMap (List Value)) (other key : String) (value : Value) :
    ((append values other value).get? key).getD [] =
      if key = Name.fold other then (values.get? key).getD [] ++ [value]
      else (values.get? key).getD [] := by
  rw [append, NameMap.get?_insert]
  by_cases same : key = Name.fold other
  · rw [if_pos same, if_pos same, same, Option.getD_some]
  · rw [if_neg same, if_neg same]

theorem leaveDatabaseOnly_eq (hint : Hint) :
    hint.leaveDatabaseOnly =
      { hint with
        databaseValues := hint.leaveDatabaseOnly.databaseValues
        databaseOnly := false } := by
  cases only : hint.databaseOnly with
  | true => simp [leaveDatabaseOnly, only]
  | false =>
      cases hint
      cases only
      rfl

theorem databaseValuesFor_leaveDatabaseOnly (hint : Hint) (named : table ≠ "") :
    hint.leaveDatabaseOnly.databaseValuesFor table = hint.databaseValuesFor table := by
  have key : Name.fold table ≠ everyTable := Name.fold_eq_empty_iff.not.mpr named
  cases only : hint.databaseOnly with
  | true => simp [leaveDatabaseOnly, only, databaseValuesFor, NameMap.get?_erase, key]
  | false => simp [leaveDatabaseOnly, only]

/-- If only one value for every table can be under the empty name, none is left there. -/
theorem unkeyedValues_leaveDatabaseOnly
    (single : hint.databaseOnly = false → hint.unkeyedValues = []) :
    hint.leaveDatabaseOnly.unkeyedValues = [] := by
  cases only : hint.databaseOnly with
  | true => simp [leaveDatabaseOnly, only, unkeyedValues, NameMap.get?_erase]
  | false => simpa [leaveDatabaseOnly, only] using single only

theorem databaseValuesFor_apply (named : table ≠ "") (change : Change) :
    (hint.apply change).databaseValuesFor table =
      if (Operation.change change).forgetsValues then []
      else hint.databaseValuesFor table ++
        ((Operation.change change).databaseValue? table).toList := by
  cases change with
  | databaseOnly value =>
      have key : Name.fold table ≠ everyTable := Name.fold_eq_empty_iff.not.mpr named
      rw [apply, databaseValuesFor, NameMap.get?_insert_of_ne _ _ key]
      rfl
  | database other value =>
      have kept := databaseValuesFor_leaveDatabaseOnly hint named
      rw [databaseValuesFor] at kept
      rw [apply, databaseValuesFor, get?_append, kept]
      by_cases same : Name.fold other = Name.fold table
      · simp [Operation.forgetsValues, Operation.forgetsAll, Operation.databaseValue?, Name.Same,
          same]
      · simp [Operation.forgetsValues, Operation.forgetsAll, Operation.databaseValue?, Name.Same,
          same, Ne.symm same]
  | table other value =>
      exact (databaseValuesFor_leaveDatabaseOnly hint named).trans (List.append_nil _).symm
  | clear => rfl
  | writeOnly | readWrite | dataSource _ => exact (List.append_nil _).symm

theorem tableValuesFor_apply (change : Change) :
    (hint.apply change).tableValuesFor table =
      if (Operation.change change).forgetsValues then []
      else hint.tableValuesFor table ++ ((Operation.change change).tableValue? table).toList := by
  have kept := congrArg tableValues hint.leaveDatabaseOnly_eq
  cases change with
  | table other value =>
      rw [apply, tableValuesFor, get?_append, kept]
      by_cases same : Name.fold other = Name.fold table
      · simp [Operation.forgetsValues, Operation.forgetsAll, Operation.tableValue?, Name.Same,
          tableValuesFor, same]
      · simp [Operation.forgetsValues, Operation.forgetsAll, Operation.tableValue?, Name.Same,
          tableValuesFor, same, Ne.symm same]
  | database other value =>
      rw [apply, tableValuesFor, kept]
      exact (List.append_nil _).symm
  | databaseOnly value | clear => rfl
  | writeOnly | readWrite | dataSource _ => exact (List.append_nil _).symm

theorem databaseOnly_apply (change : Change) :
    (hint.apply change).databaseOnly =
      if (Operation.change change).settlesMode then (Operation.change change).everyValue?.isSome
      else hint.databaseOnly := by
  have left := congrArg databaseOnly hint.leaveDatabaseOnly_eq
  cases change with
  | database _ _ | table _ _ => exact left
  | databaseOnly _ | clear | writeOnly | readWrite | dataSource _ => rfl

theorem unkeyedValues_apply (single : hint.databaseOnly = false → hint.unkeyedValues = [])
    {change : Change} (keyed : (Operation.change change).Keyed) :
    (hint.apply change).unkeyedValues =
      if (Operation.change change).settlesMode then (Operation.change change).everyValue?.toList
      else hint.unkeyedValues := by
  cases change with
  | database other value =>
      have apart : everyTable ≠ Name.fold other := by
        intro same
        exact keyed (Name.fold_eq_empty_iff.mp same.symm)
      rw [apply, unkeyedValues, get?_append, if_neg apart]
      exact unkeyedValues_leaveDatabaseOnly single
  | table other value => exact unkeyedValues_leaveDatabaseOnly single
  | databaseOnly value =>
      rw [apply, unkeyedValues, NameMap.get?_insert_self]
      rfl
  | clear | writeOnly | readWrite | dataSource _ => rfl

theorem writeOnly_apply (change : Change) :
    (hint.apply change).writeOnly =
      if (Operation.change change).forgetsAll then false
      else (Operation.change change).writeOnly?.getD hint.writeOnly := by
  have kept := congrArg Hint.writeOnly hint.leaveDatabaseOnly_eq
  cases change with
  | database _ _ | table _ _ => exact kept
  | databaseOnly _ | clear | writeOnly | readWrite | dataSource _ => rfl

theorem dataSource_apply (change : Change) :
    (hint.apply change).dataSource =
      if (Operation.change change).forgetsAll then none
      else ((Operation.change change).dataSource?.or hint.dataSource) := by
  have kept := congrArg Hint.dataSource hint.leaveDatabaseOnly_eq
  cases change with
  | database _ _ | table _ _ => exact kept
  | databaseOnly _ | clear | writeOnly | readWrite | dataSource _ => rfl

end Hint

/-! ## Runs -/

namespace HintContext

def succeeding (context : HintContext) : List Operation → List Operation
  | [] => []
  | operation :: rest =>
    match context.perform operation with
    | .ok after => operation :: after.succeeding rest
    | .error _ => context.succeeding rest

/-- The value for every table, if the last operation on values has given it. -/
def valueForAll? (history : List Operation) : Option Value :=
  (latest? Operation.settlesMode history).bind Operation.everyValue?

/-- A context says what its history has said since it was taken or cleared, or since all values in
it were replaced. -/
structure Recalls (history : List Operation) (context : HintContext) : Prop where
  databaseValues : ∀ table, table ≠ "" → context.databaseValuesFor table =
    (since Operation.forgetsValues history).filterMap (Operation.databaseValue? table)
  tableValues : ∀ table, context.tableValuesFor table =
    (since Operation.forgetsValues history).filterMap (Operation.tableValue? table)
  databaseOnly : context.isDatabaseOnly = (valueForAll? history).isSome
  unkeyedValues : context.unkeyedValues = (valueForAll? history).toList
  writeOnly : context.isWriteOnly =
    (((since Operation.forgetsAll history).filterMap Operation.writeOnly?).getLast?).getD false
  dataSource : context.dataSource? =
    ((since Operation.forgetsAll history).filterMap Operation.dataSource?).getLast?

structure Silent (context : HintContext) : Prop where
  databaseValues : ∀ table, context.databaseValuesFor table = []
  tableValues : ∀ table, context.tableValuesFor table = []
  databaseOnly : context.isDatabaseOnly = false
  unkeyedValues : context.unkeyedValues = []
  writeOnly : context.isWriteOnly = false
  dataSource : context.dataSource? = none

theorem silent_none : Silent none :=
  ⟨fun _ => rfl, fun _ => rfl, rfl, rfl, rfl, rfl⟩

variable {history operations : List Operation} {context after : HintContext}
  {operation : Operation}

theorem valueForAll?_concat (history : List Operation) (operation : Operation) :
    valueForAll? (history ++ [operation]) =
      if operation.settlesMode then operation.everyValue? else valueForAll? history := by
  rw [valueForAll?, latest?_concat]
  cases operation.settlesMode <;> rfl

theorem recalls_acquire (history : List Operation) :
    Recalls (history ++ [.acquire]) (some {}) where
  databaseValues _ _ := by rw [filterMap_since_concat]; rfl
  tableValues _ := by rw [filterMap_since_concat]; rfl
  databaseOnly := by rw [valueForAll?_concat]; rfl
  unkeyedValues := by rw [valueForAll?_concat]; rfl
  writeOnly := by rw [filterMap_since_concat]; rfl
  dataSource := by rw [filterMap_since_concat]; rfl

theorem Recalls.change {hint : Hint} {change : Hint.Change} (recalls : Recalls history (some hint))
    (keyed : (Operation.change change).Keyed) :
    Recalls (history ++ [.change change]) (some (hint.apply change)) where
  databaseValues table named := by
    rw [filterMap_since_concat, ← recalls.databaseValues table named]
    exact Hint.databaseValuesFor_apply named change
  tableValues table := by
    rw [filterMap_since_concat, ← recalls.tableValues table]
    exact Hint.tableValuesFor_apply change
  databaseOnly := by
    rw [valueForAll?_concat, apply_ite Option.isSome, ← recalls.databaseOnly]
    exact Hint.databaseOnly_apply change
  unkeyedValues := by
    rw [valueForAll?_concat, apply_ite Option.toList, ← recalls.unkeyedValues]
    refine Hint.unkeyedValues_apply (fun single => ?_) keyed
    have given := recalls.databaseOnly.symm.trans single
    have noValue := Option.isNone_iff_eq_none.mp (Option.isSome_eq_false_iff.mp given)
    exact recalls.unkeyedValues.trans (congrArg Option.toList noValue)
  writeOnly := by
    refine (Hint.writeOnly_apply change).trans ?_
    rw [filterMap_since_concat]
    have before : hint.writeOnly = _ := recalls.writeOnly
    rw [before]
    cases (Operation.change change).forgetsAll with
    | true => rfl
    | false => cases (Operation.change change).writeOnly? <;> simp
  dataSource := by
    refine (Hint.dataSource_apply change).trans ?_
    rw [filterMap_since_concat]
    have before : hint.dataSource = _ := recalls.dataSource
    rw [before]
    cases (Operation.change change).forgetsAll with
    | true => rfl
    | false => cases (Operation.change change).dataSource? <;> simp

/-- A context is taken if it was taken last, and then it recalls its history. -/
structure Tracks (history : List Operation) (context : HintContext) : Prop where
  taken : context.isSome = true ↔ latest? Operation.takesOrLeaves history = some .acquire
  recalls : context.isSome = true → Recalls history context

theorem tracks_nil : Tracks [] none :=
  ⟨by simp [latest?], nofun⟩

theorem Tracks.perform (tracks : Tracks history context) (keyed : operation.Keyed)
    (performed : context.perform operation = .ok after) :
    Tracks (history ++ [operation]) after := by
  cases operation with
  | acquire =>
      cases context with
      | some hint => cases performed
      | none =>
          cases performed
          refine ⟨?_, fun _ => recalls_acquire history⟩
          simp [latest?_concat, Operation.takesOrLeaves]
  | release =>
      cases performed
      exact ⟨by simp [latest?_concat, Operation.takesOrLeaves, release], nofun⟩
  | change change =>
      cases performed
      have taken : (context.change change).isSome = context.isSome := Option.isSome_map
      refine ⟨?_, fun attached => ?_⟩
      · rw [taken, latest?_concat]
        exact tracks.taken
      · rw [taken] at attached
        have recalls := tracks.recalls attached
        cases context with
        | none => cases attached
        | some hint => exact recalls.change keyed

theorem run_cons (context : HintContext) (operation : Operation) (operations : List Operation) :
    context.run (operation :: operations) =
      HintContext.run (match context.perform operation with
        | .ok after => after
        | .error _ => context) operations := rfl

theorem Tracks.run (tracks : Tracks history context)
    (keyed : ∀ operation ∈ operations, operation.Keyed) :
    Tracks (history ++ context.succeeding operations) (context.run operations) := by
  induction operations generalizing history context with
  | nil => simpa [succeeding, HintContext.run] using tracks
  | cons operation operations ih =>
      obtain ⟨first, rest⟩ := List.forall_mem_cons.mp keyed
      rw [succeeding, run_cons]
      cases performed : context.perform operation with
      | ok after =>
          have next := ih (tracks.perform first performed) rest
          rwa [List.append_assoc] at next
      | error _ => exact ih tracks rest

theorem run_concat (context : HintContext) (operations : List Operation) (operation : Operation) :
    context.run (operations ++ [operation]) =
      match (context.run operations).perform operation with
      | .ok after => after
      | .error _ => context.run operations := by
  rw [HintContext.run, List.foldl_append]
  rfl

theorem acquire_eq_ok_iff : (∃ after, context.acquire = .ok after) ↔ context.isSome = false := by
  cases context <;> simp [acquire]

theorem eq_none_of_acquire (taken : context.acquire = .ok after) : context = none := by
  cases context with
  | none => rfl
  | some hint => cases taken

/-- Work that is let in finds the context free, and leaves it free; work that is refused does not
touch it. -/
theorem scope_context {α : Type} (context : HintContext) (work : Work α) :
    (context.scope work).2 = context := by
  rw [scope]
  cases taken : context.acquire with
  | error error => rfl
  | ok attached =>
      calc (work attached).2.release
        _ = none := rfl
        _ = context := (eq_none_of_acquire taken).symm

/-- A context is a faithful history. Whatever operations it has seen, it can be taken unless it is
taken, and being refused changes nothing. While it is taken it says what the operations since then
have told it, and while it is free it says nothing and has no influence on routes. A piece of work
leaves it as it was. -/
theorem run_is_faithful (operations : List Operation)
    (keyed : ∀ operation ∈ operations, operation.Keyed) :
    ((∃ after, (HintContext.run none operations).acquire = .ok after) ↔
      (HintContext.run none operations).isSome = false) ∧
    (∀ error, (HintContext.run none operations).acquire = .error error →
      HintContext.run none (operations ++ [.acquire]) = HintContext.run none operations) ∧
    ((HintContext.run none operations).isSome = true ↔
      latest? Operation.takesOrLeaves (HintContext.succeeding none operations) = some .acquire) ∧
    ((HintContext.run none operations).isSome = true →
      Recalls (HintContext.succeeding none operations) (HintContext.run none operations)) ∧
    ((HintContext.run none operations).isSome = false →
      Silent (HintContext.run none operations) ∧ ∀ (rule : Rule) (statement : Statement),
        rule.routeIn (HintContext.run none operations) statement = rule.route statement none) ∧
    (∀ (hint : Hint), HintContext.run none operations = some hint →
      ∀ (rule : Rule) (statement : Statement),
        rule.routeIn (HintContext.run none operations) statement =
          rule.route statement (some hint)) ∧
    ∀ (α : Type) (work : Work α),
      ((HintContext.run none operations).scope work).2 = HintContext.run none operations := by
  have tracks := tracks_nil.run keyed
  rw [List.nil_append] at tracks
  refine ⟨acquire_eq_ok_iff, ?_, tracks.taken, tracks.recalls, ?_, ?_, ?_⟩
  · intro error refused
    rw [run_concat, HintContext.perform, refused]
  · intro free
    rw [Option.isNone_iff_eq_none.mp (Option.isSome_eq_false_iff.mp free)]
    exact ⟨silent_none, fun _ _ => rfl⟩
  · intro hint taken rule statement
    rw [taken, Rule.routeIn]
  · intro α work
    exact scope_context _ work

/-- The values given before the release are forgotten, and the last acquisition is refused. -/
private def orderRun : List Operation :=
  [.acquire, .change (.table "t_order" (.int 1)), .release, .acquire,
    .change (.databaseOnly (.int 3)), .change .writeOnly, .change (.table "t_order" (.int 9)),
    .change (.database "t_item" (.int 2)), .acquire, .change (.table "t_order" (.int 4)),
    .change (.dataSource "ds_1")]

theorem order_run_is_faithful :
    (∀ operation ∈ orderRun, operation.Keyed) ∧
    (HintContext.run none orderRun).isSome = true ∧
    (HintContext.run none orderRun).databaseValuesFor "t_order" = [] ∧
    (HintContext.run none orderRun).tableValuesFor "t_order" = [.int 9, .int 4] ∧
    (HintContext.run none orderRun).isDatabaseOnly = false ∧
    (HintContext.run none orderRun).unkeyedValues = [] ∧
    (HintContext.run none orderRun).isWriteOnly = true ∧
    (HintContext.run none orderRun).dataSource? = some "ds_1" := by
  have keyed : ∀ operation ∈ orderRun, operation.Keyed := by decide
  obtain ⟨_, _, taken, recalls, _⟩ := run_is_faithful orderRun keyed
  have attached := taken.mpr (by decide +kernel)
  have told := recalls attached
  refine ⟨keyed, attached, ?_, ?_, ?_, ?_, ?_, ?_⟩
  · rw [told.databaseValues "t_order" (by decide)]
    decide +kernel
  · rw [told.tableValues "t_order"]
    decide +kernel
  · rw [told.databaseOnly]
    decide +kernel
  · rw [told.unkeyedValues]
    decide +kernel
  · rw [told.writeOnly]
    decide +kernel
  · rw [told.dataSource]
    decide +kernel

end HintContext

end Sharding
