import Sharding.Proofs.Route.Agreement
import Sharding.Proofs.Route.Separation

/-!
# Hints that make no difference

Routing reads of a hint its data source and what it says of the tables of the statement. Values for
other tables do not matter. That reads have to go where writes go is passed on and decides nothing,
and an empty hint is as good as none.
-/

set_option autoImplicit false

namespace Sharding

/-- Two hints say the same to a statement: of its data source and of each of its tables. -/
structure HintContext.AgreeFor (left right : HintContext) (statement : Statement) : Prop where
  dataSource : left.dataSource? = right.dataSource?
  tables : ∀ name ∈ statement.tableNames, left.AgreeOn right name

theorem isHinted_iff_read (context : HintContext) (table : String) :
    IsHinted context table ↔
      context.isDatabaseOnly = true ∨ context.databaseValuesFor table ≠ [] ∨
        context.tableValuesFor table ≠ [] := by
  cases context with
  | none => simp [IsHinted, HintContext.isDatabaseOnly, HintContext.databaseValuesFor,
      HintContext.tableValuesFor]
  | some hint =>
      constructor
      · rintro ⟨_, given, reaches⟩
        cases given
        exact reaches
      · intro reaches
        exact ⟨hint, rfl, reaches⟩

theorem HintContext.AgreeOn.isHinted_iff {left right : HintContext} {table : String}
    (agree : left.AgreeOn right table) : IsHinted left table ↔ IsHinted right table := by
  rw [isHinted_iff_read, isHinted_iff_read, agree.databaseOnly, agree.databaseValues,
    agree.tableValues]

namespace HintContext.AgreeFor

theorem refl (context : HintContext) (statement : Statement) :
    AgreeFor context context statement where
  dataSource := rfl
  tables _ _ := ⟨rfl, rfl, rfl, rfl⟩

theorem empty (statement : Statement) : AgreeFor none (some {}) statement where
  dataSource := rfl
  tables _ _ := ⟨rfl, rfl, rfl, rfl⟩

theorem withWriteOnly (hint : Hint) (writeOnly : Bool) (statement : Statement) :
    AgreeFor (some hint) (some { hint with writeOnly }) statement where
  dataSource := rfl
  tables _ _ := ⟨rfl, rfl, rfl, rfl⟩

end HintContext.AgreeFor

namespace Rule

variable {catalog : Catalog} {expand : String → Except Error (List DataNode)} {file : RuleFile}
  {rule : Rule} {statement : Statement} {left right : HintContext}

theorem alike_of_agreeFor (built : build catalog expand file = .ok rule)
    (agree : left.AgreeFor right statement) :
    rule.Alike (.sameNames Eq False fun _ => rfl) statement statement left right where
  named := List.forall₂_same.mpr fun _ _ => rfl
  sources := agree.dataSource
  conditioned _ _ := Iff.rfl
  hinted name member := (agree.tables name member).isHinted_iff
  selected name table chooses := by
    have same := (isBuilt_of_build built).same_logicTable chooses.ruled
    have own := (agree.tables name chooses.named).of_same same.symm
    exact .of_eq (fun _ => rfl) (TableRule.select_eq_of_agreeOn own)

/-- Statements that are routed alike under two hints have one outcome, but for the flag of writes,
which each route takes from its own hint. -/
theorem Alike.route_eq_withWriteOnly {other : Statement}
    (alike : rule.Alike (.sameNames Eq False fun _ => rfl) statement other left right) :
    rule.route other right = (rule.route statement left).map fun route =>
      { route with writeOnly := right.isWriteOnly } := by
  have agree := alike.route
  cases leftRouted : rule.route statement left with
  | error error =>
      rw [leftRouted] at agree
      generalize rule.route other right = outcome at agree
      cases agree with
      | error same =>
          cases same
          rfl
      | left parted => exact parted.elim
      | right parted => exact parted.elim
  | ok leftRoute =>
      cases rightRouted : rule.route other right with
      | error error =>
          rw [leftRouted, rightRouted] at agree
          cases agree with
          | right parted => exact parted.elim
      | ok rightRoute =>
          rw [leftRouted, rightRouted] at agree
          have tables := agree.related.imp fun _ _ => Leeway.eq_of_entries
          rw [List.forall₂_eq_eq_eq] at tables
          have writeOnly := writeOnly_of_route rightRouted
          cases rightRoute
          cases tables
          cases writeOnly
          rfl

theorem route_of_agreeFor (built : build catalog expand file = .ok rule)
    (agree : left.AgreeFor right statement) :
    rule.route statement right = (rule.route statement left).map fun route =>
      { route with writeOnly := right.isWriteOnly } :=
  (alike_of_agreeFor built agree).route_eq_withWriteOnly

/-- Routing reads nothing of a hint but its data source and what it says of the tables of the
statement: hints that agree on these give the same entries or the same error. The flag of writes is
that of the hint and changes nothing else, and an empty hint gives what no hint gives. -/
theorem hints_do_not_interfere (built : build catalog expand file = .ok rule)
    (agree : left.AgreeFor right statement) :
    (rule.route statement left).map (·.tables) = (rule.route statement right).map (·.tables) ∧
    (∀ route, rule.route statement left = .ok route → route.writeOnly = left.isWriteOnly) ∧
    (∀ hint writeOnly, rule.route statement (some { hint with writeOnly }) =
      (rule.route statement (some hint)).map fun route => { route with writeOnly }) ∧
    rule.route statement (some {}) = rule.route statement none := by
  have unread := route_of_agreeFor built agree
  refine ⟨?_, fun _ => writeOnly_of_route, fun hint writeOnly => ?_, ?_⟩
  · rw [unread]
    cases rule.route statement left <;> rfl
  · exact route_of_agreeFor built (.withWriteOnly hint writeOnly statement)
  · have emptied := route_of_agreeFor built (.empty statement)
    have plain := route_of_agreeFor built (.refl none statement)
    exact emptied.trans plain.symm

private def parcelEntry (pattern : String) : TableEntry :=
  ⟨some pattern, none, some { standard := some ⟨some "id", "volume"⟩ }, none, none⟩

private def parcelFile : RuleFile where
  dataSources := ["ds_0"]
  tables := .ofList
    [("t_item", parcelEntry "ds_0.i_$\x7b0..2\x7d"),
      ("t_parcel", parcelEntry "ds_0.p_$\x7b0..2\x7d")]
  bindingTables := ["t_parcel, t_item"]
  algorithms := .ofList
    [("volume", ⟨"VOLUME_RANGE", .ofList
      [("range-lower", "0"), ("range-upper", "20"), ("sharding-volume", "20")]⟩)]

private def parcelStatement : Statement :=
  ⟨["t_item", "t_parcel"], []⟩

private def parcelHint : Hint :=
  .ofChanges [.table "t_parcel" (.int 12)]

/-- A hint that also has values for a table that the statement does not name. -/
private def parcelStockHint : Hint :=
  .ofChanges [.database "t_stock" (.int 7), .table "t_parcel" (.int 12),
    .table "t_stock" (.int (-1)), .writeOnly]

private def parcelRoute : Route where
  tables :=
    [⟨"t_item", [⟨"ds_0", "i_1"⟩], .binding "t_parcel"⟩, ⟨"t_parcel", [⟨"ds_0", "p_1"⟩], .sharded⟩]

private theorem parcel_hints_agree :
    HintContext.AgreeFor (some parcelHint) (some parcelStockHint) parcelStatement where
  dataSource := by decide +kernel
  tables := by
    have named : parcelStatement.tableNames = ["t_item", "t_parcel"] := by decide +kernel
    rw [named]
    simp only [List.forall_mem_cons, List.not_mem_nil, false_implies, implies_true, and_true]
    constructor <;> constructor <;> decide +kernel

/-- The value for one table decides on both, and the values for the other table on none. -/
theorem parcel_hints_do_not_interfere :
    HintContext.AgreeFor (some parcelHint) (some parcelStockHint) parcelStatement ∧
    ∃ rule, build .builtin DataNode.expand parcelFile = .ok rule ∧
      rule.route parcelStatement (some parcelHint) = .ok parcelRoute ∧
      (rule.route parcelStatement (some parcelStockHint)).map (·.tables) = .ok parcelRoute.tables ∧
      rule.route parcelStatement (some { parcelHint with writeOnly := true }) =
        .ok { parcelRoute with writeOnly := true } := by
  have run : (build .builtin DataNode.expand parcelFile >>= fun rule =>
      rule.route parcelStatement (some parcelHint)) = .ok parcelRoute := by
    decide +kernel
  obtain ⟨rule, built, routed⟩ := bind_eq_ok.mp run
  obtain ⟨tables, _, flagged, _⟩ := hints_do_not_interfere built parcel_hints_agree
  have written := flagged parcelHint true
  rw [routed] at tables written
  exact ⟨parcel_hints_agree, rule, built, routed, tables.symm, written⟩

end Rule

end Sharding
