import Sharding.Proofs.Route.Agreement
import Sharding.Rule.Build

/-!
# Lists of values

A condition that asks for one of several values is routed like the alternatives that ask for one
value each. Where the column of the values drives a strategy, both place the values one after the
other. Where it does not, the alternatives all select the same. Strategies by several columns are
left out: they combine the values of their columns.
-/

set_option autoImplicit false

namespace Sharding

namespace Condition

/-- A condition whose predicate on one of its columns is left out. -/
structure Frame where
  table : String
  before : List ColumnPredicate
  column : String
  after : List ColumnPredicate

namespace Frame

def fill (frame : Frame) (predicate : Predicate) : Condition :=
  ⟨frame.table, frame.before ++ ⟨frame.column, predicate⟩ :: frame.after⟩

/-- One condition for each value. -/
def alternatives (frame : Frame) (values : List Value) : List Condition :=
  values.map fun value => frame.fill (.equal value)

/-- A look-up finds the predicate that is filled in, or else the same one whatever is. -/
theorem predicate?_fill (frame : Frame) (key : String) :
    (∀ predicate, (frame.fill predicate).predicate? key = some predicate) ∨
      ∃ found, ∀ predicate, (frame.fill predicate).predicate? key = found := by
  unfold predicate? fill
  simp only [List.find?_append, List.find?_cons]
  cases frame.before.find? fun entry => Name.Same entry.column key with
  | some entry => exact .inr ⟨some entry.predicate, fun _ => rfl⟩
  | none =>
      by_cases same : Name.Same frame.column key
      · exact .inl fun predicate => by simp [same]
      · exact .inr ⟨(frame.after.find? fun entry => Name.Same entry.column key).map (·.predicate),
          fun _ => by simp [same]⟩

end Frame

end Condition

/-! ## Alternatives for values -/

section

variable {α : Type} {select : α → Except Error (Option (List String))} {items : List α}
  {first second other others outcome : Except Error (Option (List String))} {torn : Prop}
  {errors : Error → Error → Prop}

theorem selectsSame_of_eq (same : first = second) : Agree torn Eq SelectsSame first second := by
  subst same
  rcases first with error | _ | names
  · exact .error rfl
  · exact .ok .none
  · exact .ok (.some fun _ => Iff.rfl)

theorem unite_agrees (firsts : Agree torn errors SelectsSame first other)
    (seconds : Agree torn errors SelectsSame second others) :
    Agree torn errors SelectsSame (unite first second) (unite other others) := by
  cases firsts with
  | error related => exact .error related
  | left parted error _ => exact .left parted error _
  | right parted _ error => exact .right parted _ error
  | ok related =>
      cases related with
      | none => exact .ok .none
      | some same =>
          cases seconds with
          | error related => exact .error related
          | left parted error _ => exact .left parted error _
          | right parted _ error => exact .right parted _ error
          | ok related =>
              cases related with
              | none => exact .ok .none
              | some sameRest =>
                  refine .ok (.some fun name => ?_)
                  rw [List.mem_append, List.mem_append, same, sameRest]

theorem selectAny_map {β : Type} (f : β → α) (values : List β) :
    selectAny select (values.map f) = selectAny (fun value => select (f value)) values := by
  induction values with
  | nil => rfl
  | cons value values ih => rw [List.map_cons, selectAny_cons, selectAny_cons, ih]

theorem selectAny_agrees_of_forall (filled : items ≠ [])
    (all : ∀ item ∈ items, select item = outcome) :
    Agree torn Eq SelectsSame outcome (selectAny select items) := by
  rcases selected : selectAny select items with error | _ | names
  · obtain ⟨item, member, fails⟩ := exists_of_selectAny_eq_error selected
    rw [← all item member, fails]
    exact .error rfl
  · obtain ⟨item, member, opens⟩ := exists_of_selectAny_eq_none selected
    rw [← all item member, opens]
    exact .ok .none
  · obtain ⟨item, member⟩ := List.exists_mem_of_ne_nil items filled
    obtain ⟨own, ownSelected, _⟩ := selectAny_eq_some selected item member
    rw [← all item member, ownSelected]
    refine .ok (.some fun name => ?_)
    rw [mem_selectAny_iff selected]
    constructor
    · exact fun ownMember => ⟨item, member, own, ownSelected, ownMember⟩
    · rintro ⟨found, foundMember, _, foundSelected, inside⟩
      rw [all found foundMember, ← all item member, ownSelected] at foundSelected
      cases foundSelected
      exact inside

end

/-- The values of a list are placed one after the other. -/
theorem StandardPlacement.selectAny_selectAmong {placement : StandardPlacement}
    {candidates : List String} {column : String} (values : List Value) :
    selectAny (fun value => do
        return some (← placement.selectAmong candidates column [value])) values =
      (do return some (← placement.selectAmong candidates column values)) := by
  induction values with
  | nil => rfl
  | cons value values ih =>
      rw [selectAny_cons, ih]
      simp only [selectAmong, List.mapM_cons, List.mapM_nil]
      cases placement.selectEqual candidates column value with
      | error error => rfl
      | ok place =>
          cases values.mapM fun value => placement.selectEqual candidates column value with
          | error error => rfl
          | ok places => cases place <;> rfl

namespace Strategy

variable {strategy : Strategy} {table : String} {candidates : List String}
  {frame : Condition.Frame} {values : List Value} {earlier later : List Condition}

def isComplex : Strategy → Bool
  | .complex _ _ _ => true
  | _ => false

theorem selectedBy_agrees (simple : strategy.isComplex = false) (filled : values ≠ []) :
    Agree False Eq SelectsSame (strategy.selectedBy candidates (frame.fill (.among values)))
      (selectAny (strategy.selectedBy candidates) (frame.alternatives values)) := by
  have alternatives : frame.alternatives values ≠ [] := List.map_eq_nil_iff.not.mpr filled
  cases strategy with
  | complex columns algorithm placement => cases simple
  | unsharded => exact selectAny_agrees_of_forall alternatives fun _ _ => rfl
  | hint algorithm placement => exact selectAny_agrees_of_forall alternatives fun _ _ => rfl
  | standard column algorithm placement =>
      rcases frame.predicate?_fill column with driven | ⟨found, constant⟩
      · refine selectsSame_of_eq ?_
        simp only [Condition.Frame.alternatives, selectAny_map, selectedBy, selectColumn, driven,
          StandardPlacement.select, StandardPlacement.selectAny_selectAmong]
      · refine selectAny_agrees_of_forall alternatives fun condition member => ?_
        obtain ⟨value, _, rfl⟩ := List.mem_map.mp member
        rw [selectedBy, selectedBy, selectColumn, selectColumn, constant, constant]

theorem select_agrees_of_among (simple : strategy.isComplex = false) (filled : values ≠ []) :
    Agree False Eq Eq
      (strategy.select table candidates
        (.conditions (earlier ++ frame.fill (.among values) :: later)))
      (strategy.select table candidates
        (.conditions (earlier ++ frame.alternatives values ++ later))) := by
  have alternatives : earlier ++ frame.alternatives values ++ later ≠ [] := by
    simp [Condition.Frame.alternatives, filled]
  refine select_agrees (fun _ _ same => congrArg _ same) ?_
  rw [selectBy_of_ne_nil (by simp), selectBy_of_ne_nil alternatives, selectAny_append,
    selectAny_cons, List.append_assoc, selectAny_append, selectAny_append]
  exact unite_agrees (selectsSame_of_eq rfl)
    (unite_agrees (selectedBy_agrees simple filled) (selectsSame_of_eq rfl))

end Strategy

/-! ## Statements -/

theorem distinctNames_repeated (name : String) (names : List String) :
    distinctNames (name :: name :: names) = distinctNames (name :: names) := by
  simp [distinctNames, Name.Same.refl, List.filter_filter]

theorem distinctNames_among {values : List Value} (filled : values ≠ []) (name : String)
    (earlier later : List String) :
    distinctNames (earlier ++ (values.map fun _ => name) ++ later) =
      distinctNames (earlier ++ name :: later) := by
  have repeated : distinctNames ((values.map fun _ => name) ++ later) =
      distinctNames (name :: later) := by
    induction values with
    | nil => exact absurd rfl filled
    | cons value values ih =>
        cases values with
        | nil => rfl
        | cons next values =>
            rw [← ih (List.cons_ne_nil _ _)]
            exact distinctNames_repeated _ _
  rw [List.append_assoc, distinctNames_append, repeated, ← distinctNames_append]

/-- The conditions on a table differ only if the list of values is on it, and then like those of
the statements. -/
theorem Statement.conditionsOn_among (frame : Condition.Frame) (values : List Value)
    (tables : List String) (earlier later : List Condition) (name : String) :
    (Name.Same frame.table name ∧ ∃ before after,
      conditionsOn ⟨tables, earlier ++ frame.fill (.among values) :: later⟩ name =
        before ++ frame.fill (.among values) :: after ∧
      conditionsOn ⟨tables, earlier ++ frame.alternatives values ++ later⟩ name =
        before ++ frame.alternatives values ++ after) ∨
    conditionsOn ⟨tables, earlier ++ frame.fill (.among values) :: later⟩ name =
      conditionsOn ⟨tables, earlier ++ frame.alternatives values ++ later⟩ name := by
  have applies : ∀ predicate, (frame.fill predicate).AppliesTo name ↔ Name.Same frame.table name :=
    fun _ => Iff.rfl
  unfold conditionsOn Condition.Frame.alternatives
  by_cases same : Name.Same frame.table name
  · refine .inl ⟨same, earlier.filter fun condition => condition.AppliesTo name,
      later.filter fun condition => condition.AppliesTo name, ?_, ?_⟩
    · simp [applies, same]
    · simp [List.filter_map, Function.comp_def, applies, same]
  · exact .inr (by simp [List.filter_map, Function.comp_def, applies, same])

theorem TableRule.conditioned_among_iff {table : TableRule} {frame : Condition.Frame}
    {values : List Value} {earlier later : List Condition} (filled : values ≠ []) :
    table.Conditioned (earlier ++ frame.fill (.among values) :: later) ↔
      table.Conditioned (earlier ++ frame.alternatives values ++ later) := by
  have own : ∀ predicate : Predicate,
      (∃ entry ∈ (frame.fill predicate).columns, table.ShardsBy entry.column) ↔
        (∃ entry ∈ frame.before, table.ShardsBy entry.column) ∨ table.ShardsBy frame.column ∨
          ∃ entry ∈ frame.after, table.ShardsBy entry.column := by
    simp [Condition.Frame.fill, or_and_right, exists_or]
  obtain ⟨value, member⟩ := List.exists_mem_of_ne_nil values filled
  have each : ∀ fact : Prop, (∃ value ∈ values, fact) ↔ fact :=
    fun _ => ⟨fun ⟨_, _, holds⟩ => holds, fun holds => ⟨value, member, holds⟩⟩
  simp [Conditioned, Condition.Frame.alternatives, or_and_right, exists_or, own, each]

namespace Rule

variable {frame : Condition.Frame} {values : List Value} {tables : List String}
  {earlier later : List Condition}

theorem alike_of_among (rule : Rule) (filled : values ≠ [])
    (simple : ∀ ruled ∈ rule.table? frame.table,
      ruled.databaseStrategy.isComplex = false ∧ ruled.tableStrategy.isComplex = false)
    (hint : Option Hint) :
    rule.Alike (.sameNames Eq False fun _ => rfl)
      ⟨tables, earlier ++ frame.fill (.among values) :: later⟩
      ⟨tables, earlier ++ frame.alternatives values ++ later⟩ hint hint where
  named := by
    have names := distinctNames_among filled frame.table (tables ++ earlier.map (·.table))
      (later.map (·.table))
    change List.Forall₂ Eq _ _
    rw [List.forall₂_eq_eq_eq]
    simpa [Statement.tableNames, Condition.Frame.alternatives, Condition.Frame.fill,
      Function.comp_def] using names.symm
  sources := rfl
  conditioned name _ := by
    unfold IsConditioned
    rcases Statement.conditionsOn_among frame values tables earlier later name with
      ⟨_, before, after, listed, split⟩ | same
    · simp only [listed, split, TableRule.conditioned_among_iff filled]
    · rw [same]
  hinted _ _ := Iff.rfl
  selected name table chooses := by
    rcases Statement.conditionsOn_among frame values tables earlier later name with
      ⟨same, before, after, listed, split⟩ | same
    · obtain ⟨database, own⟩ := simple table ((table?_congr same).trans chooses.ruled)
      rw [listed, split]
      exact TableRule.select_agrees (fun _ => rfl)
        (fun _ => Strategy.select_agrees_of_among database filled)
        fun _ _ _ _ _ => Strategy.select_agrees_of_among own filled
    · rw [same]
      exact .of_eq (fun _ => rfl) rfl

/-- A condition that asks for one of several values in a column is routed like conditions in its
place that ask for one of the values each, in their order. Where one of them fails, both fail with
the same error. -/
theorem route_among_eq (rule : Rule) (frame : Condition.Frame) (tables : List String)
    (earlier later : List Condition) (hint : Option Hint) (filled : values ≠ [])
    (simple : ∀ ruled ∈ rule.table? frame.table,
      ruled.databaseStrategy.isComplex = false ∧ ruled.tableStrategy.isComplex = false) :
    rule.route ⟨tables, earlier ++ frame.fill (.among values) :: later⟩ hint =
      rule.route ⟨tables, earlier ++ frame.alternatives values ++ later⟩ hint :=
  (alike_of_among rule filled simple hint).route_eq.eq

/-- Users by parity on two data sources, and by volume on each of them. -/
private def userFile : RuleFile where
  dataSources := ["ds_0", "ds_1"]
  tables := .ofList
    [("t_user", ⟨some "ds_$\x7b0..1\x7d.u_$\x7b0..2\x7d",
      some { standard := some ⟨some "user_id", "parity"⟩ },
      some { standard := some ⟨some "user_id", "volume"⟩ }, none, none⟩)]
  algorithms := .ofList
    [("parity", ⟨"INLINE", .ofList [("algorithm-expression", "ds_$\x7buser_id % 2\x7d")]⟩),
      ("volume", ⟨"VOLUME_RANGE", .ofList
        [("range-lower", "0"), ("range-upper", "20"), ("sharding-volume", "20")]⟩)]

private def userFrame : Condition.Frame :=
  ⟨"t_user", [⟨"status", .equal (.text "new")⟩], "user_id", []⟩

private def userRoute : Route where
  tables := [⟨"t_user",
    [⟨"ds_0", "u_1"⟩, ⟨"ds_0", "u_2"⟩, ⟨"ds_1", "u_1"⟩, ⟨"ds_1", "u_2"⟩], .sharded⟩]

/-- The column drives both strategies. -/
theorem user_route_among_eq :
    [Value.int 12, .int 25] ≠ [] ∧
    ∃ rule, build .builtin DataNode.expand userFile = .ok rule ∧
      (∀ ruled ∈ rule.table? "t_user",
        ruled.databaseStrategy.isComplex = false ∧ ruled.tableStrategy.isComplex = false) ∧
      rule.route ⟨["t_user"], [userFrame.fill (.among [.int 12, .int 25])]⟩ none =
        .ok userRoute ∧
      rule.route ⟨["t_user"],
        [userFrame.fill (.equal (.int 12)), userFrame.fill (.equal (.int 25))]⟩ none =
        .ok userRoute := by
  have run : (build .builtin DataNode.expand userFile >>= fun rule => pure (decide
      ((∀ ruled ∈ rule.table? "t_user",
          ruled.databaseStrategy.isComplex = false ∧ ruled.tableStrategy.isComplex = false) ∧
        rule.route ⟨["t_user"], [userFrame.fill (.among [.int 12, .int 25])]⟩ none =
          .ok userRoute))) = .ok true := by
    decide +kernel
  obtain ⟨rule, built, simple, routed⟩ := exists_of_decided run
  have filled : [Value.int 12, .int 25] ≠ [] := List.cons_ne_nil _ _
  have same := route_among_eq rule userFrame ["t_user"] [] [] none filled simple
  exact ⟨filled, rule, built, simple, routed, same.symm.trans routed⟩

end Rule

end Sharding
