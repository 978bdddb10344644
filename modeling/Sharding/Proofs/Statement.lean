import Mathlib.Data.List.Pairwise
import Sharding.Route.Group

/-!
# Tables of statements

The tables of a statement differ in more than their spelling, and whatever a rule, a statement or a
hint says of a table it says of every spelling of its name.
-/

set_option autoImplicit false

namespace Sharding

theorem distinctNames_pairwise (names : List String) :
    (distinctNames names).Pairwise fun first later => ¬ Name.Same first later := by
  induction names with
  | nil => exact .nil
  | cons name names ih =>
      refine List.pairwise_cons.mpr ⟨fun later member same => ?_, ih.filter _⟩
      have different := (List.mem_filter.mp member).2
      simp only [decide_not, Bool.not_eq_true', decide_eq_false_iff_not] at different
      exact different same.symm

theorem exists_mem_distinctNames {names : List String} {name : String} (member : name ∈ names) :
    ∃ first ∈ distinctNames names, Name.Same first name := by
  induction names with
  | nil => cases member
  | cons head names ih =>
      by_cases same : Name.Same head name
      · exact ⟨head, List.mem_cons_self, same⟩
      · rcases List.mem_cons.mp member with rfl | member
        · exact absurd (Name.Same.refl name) same
        · obtain ⟨first, found, spelled⟩ := ih member
          refine ⟨first, List.mem_cons_of_mem _ (List.mem_filter.mpr ⟨found, ?_⟩), spelled⟩
          simp only [decide_not, Bool.not_eq_true', decide_eq_false_iff_not]
          intro sameHead
          exact same (sameHead.symm.trans spelled)

theorem mem_distinctNames_iff {names : List String} {name : String} :
    name ∈ distinctNames names ↔
      names.find? (fun spelling => Name.Same spelling name) = some name := by
  induction names with
  | nil => simp [distinctNames]
  | cons head names ih =>
      by_cases same : Name.Same head name
      · simp [distinctNames, same, same.symm, eq_comm]
      · have different : name ≠ head := by
          rintro rfl
          exact same (Name.Same.refl name)
        have opposite : ¬ Name.Same name head := fun other => same other.symm
        simp [distinctNames, same, opposite, different, ih]

theorem distinctNames_ordered (names : List String) :
    (distinctNames names).Pairwise fun earlier later =>
      names.idxOf earlier < names.idxOf later := by
  induction names with
  | nil => exact .nil
  | cons head names ih =>
      have shifted : ∀ name ∈ (distinctNames names).filter fun other => ¬ Name.Same other head,
          (head :: names).idxOf name = names.idxOf name + 1 := by
        intro name member
        have different : head ≠ name := by
          rintro rfl
          simp [Name.Same.refl] at member
        rw [List.idxOf_cons, beq_false_of_ne different, cond_false]
      refine List.pairwise_cons.mpr ⟨fun later member => ?_, ?_⟩
      · rw [List.idxOf_cons_self, shifted later member]
        exact Nat.succ_pos _
      · refine (ih.filter _).imp_of_mem fun earlierMember laterMember before => ?_
        rw [shifted _ earlierMember, shifted _ laterMember]
        exact Nat.succ_lt_succ before

/-- Names in the spelling and in the order in which a list of names has them first. -/
structure FirstSpellings (all names : List String) : Prop where
  distinct : names.Pairwise fun earlier later => ¬ Name.Same earlier later
  spelled : ∀ name, name ∈ names ↔
    all.find? (fun spelling => Name.Same spelling name) = some name
  ordered : names.Pairwise fun earlier later => all.idxOf earlier < all.idxOf later

theorem distinctNames_firstSpellings (names : List String) :
    FirstSpellings names (distinctNames names) :=
  ⟨distinctNames_pairwise names, fun _ => mem_distinctNames_iff, distinctNames_ordered names⟩

theorem distinctNames_append (earlier later : List String) :
    distinctNames (earlier ++ later) = distinctNames earlier ++
      (distinctNames later).filter fun name => ∀ other ∈ earlier, ¬ Name.Same name other := by
  induction earlier with
  | nil => simp [distinctNames, List.filter_eq_self.mpr]
  | cons head earlier ih =>
      simp only [List.cons_append, distinctNames, ih, List.filter_append, List.filter_filter]
      congr 2
      refine List.filter_congr fun name _ => ?_
      simp

namespace Statement

/-- A statement names a table in some spelling, as one of its tables or in a condition. -/
def Names (statement : Statement) (name : String) : Prop :=
  ∃ spelling ∈ statement.tables ++ statement.conditions.map (·.table), Name.Same spelling name

instance (statement : Statement) (name : String) : Decidable (statement.Names name) :=
  inferInstanceAs (Decidable (∃ spelling ∈ _, _))

theorem Names.exists_tableName {statement : Statement} {name : String}
    (named : statement.Names name) :
    ∃ first ∈ statement.tableNames, Name.Same first name := by
  obtain ⟨spelling, member, same⟩ := named
  obtain ⟨first, found, sameFirst⟩ := exists_mem_distinctNames member
  exact ⟨first, found, sameFirst.trans same⟩

theorem mem_conditionsOn_iff {statement : Statement} {name : String} {condition : Condition} :
    condition ∈ statement.conditionsOn name ↔
      condition ∈ statement.conditions ∧ condition.AppliesTo name := by
  rw [conditionsOn, List.mem_filter, decide_eq_true_iff]

theorem conditionsOn_insert {tables : List String} {earlier later : List Condition} {name : String}
    {condition : Condition} (applies : condition.AppliesTo name) :
    conditionsOn ⟨tables, earlier ++ condition :: later⟩ name =
      conditionsOn ⟨tables, earlier⟩ name ++ condition :: conditionsOn ⟨tables, later⟩ name := by
  rw [conditionsOn, List.filter_append, List.filter_cons, if_pos (decide_eq_true applies)]
  rfl

theorem Names.of_conditionsOn {statement : Statement} {name : String} {condition : Condition}
    (member : condition ∈ statement.conditionsOn name) : statement.Names name := by
  obtain ⟨listed, applies⟩ := mem_conditionsOn_iff.mp member
  exact ⟨condition.table, List.mem_append_right _ (List.mem_map_of_mem listed), applies⟩

theorem tableNames_pairwise (statement : Statement) :
    statement.tableNames.Pairwise fun first later => ¬ Name.Same first later :=
  distinctNames_pairwise _

theorem eq_of_same {statement : Statement} {left right : String}
    (leftMember : left ∈ statement.tableNames) (rightMember : right ∈ statement.tableNames)
    (same : Name.Same left right) : left = right := by
  by_cases equal : left = right
  · exact equal
  · have : Std.Symm fun first later => ¬ Name.Same first later :=
      ⟨fun _ _ apart same => apart same.symm⟩
    exact absurd same (statement.tableNames_pairwise.forall leftMember rightMember equal)

theorem conditionsOn_congr {statement : Statement} {left right : String}
    (same : Name.Same left right) : statement.conditionsOn left = statement.conditionsOn right := by
  unfold conditionsOn
  refine List.filter_congr fun condition _ => decide_eq_decide.mpr ?_
  exact ⟨fun applies => applies.trans same, fun applies => applies.trans same.symm⟩

end Statement

namespace Hint

variable {hint : Hint} {left right : String}

theorem databaseValuesFor_congr (same : Name.Same left right) :
    hint.databaseValuesFor left = hint.databaseValuesFor right := by
  unfold databaseValuesFor
  rw [same]

theorem tableValuesFor_congr (same : Name.Same left right) :
    hint.tableValuesFor left = hint.tableValuesFor right := by
  unfold tableValuesFor
  rw [same]

theorem reaches_congr (same : Name.Same left right) : hint.Reaches left ↔ hint.Reaches right := by
  rw [Reaches, Reaches, databaseValuesFor_congr same, tableValuesFor_congr same]

end Hint

namespace Rule

variable {rule : Rule} {left right : String}

theorem table?_congr (same : Name.Same left right) : rule.table? left = rule.table? right :=
  congrArg rule.tables.get? same

theorem isBroadcast_congr (same : Name.Same left right) :
    rule.isBroadcast left = rule.isBroadcast right :=
  congrArg rule.broadcast.contains same

theorem group?_congr (same : Name.Same left right) : rule.group? left = rule.group? right := by
  unfold group?
  rw [same]

end Rule

end Sharding
