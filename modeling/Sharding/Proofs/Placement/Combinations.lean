import Mathlib.Algebra.BigOperators.Group.List.Basic
import Mathlib.Data.List.Infix
import Mathlib.Data.List.Sections
import Sharding.Placement.Inline
import Sharding.Proofs.Outcome

/-!
# Combinations of values

A placement by several columns tries every way to take one value for each column. It builds them up
column by column, as long as there are not too many, and selects what any of them leads to. So it
does not matter how often or in which order a column lists its values, and what is selected for
lists of values is what is selected for their values one by one.
-/

set_option autoImplicit false

namespace Sharding

theorem Template.target_eq_ok_iff {template : Template} {type name : String}
    {bindings : Template.Bindings} :
    template.target type bindings = .ok name ↔ template.evaluate bindings = .ok name := by
  rw [target]
  cases template.evaluate bindings <;> simp

namespace ComplexInline

/-- The values that the predicates list for a column. A range lists none. -/
def listed (predicates : NameMap Predicate) (column : String) : List Value :=
  match predicates.get? column with
  | some (.equal value) => [value]
  | some (.among values) => values
  | _ => []

/-- The column has no value, or a range of them. -/
def Unlisted (predicates : NameMap Predicate) (column : String) : Prop :=
  predicates.get? column = none ∨ ∃ range, predicates.get? column = some (.within range)

/-- One value for each column, out of those that are listed for it. -/
def Combines (predicates : NameMap Predicate) (columns : List String)
    (combination : List Value) : Prop :=
  List.Forall₂ (fun column value => value ∈ listed predicates column) columns combination

/-- The number of ways to take one value for each column. -/
def count (predicates : NameMap Predicate) (columns : List String) : Nat :=
  (columns.map fun column => (listed predicates column).length).prod

/-- Starting with so many combinations, their number is never beyond the limit on the way through
the columns. -/
def CountsWithin (predicates : NameMap Predicate) (size : Nat) (columns : List String) : Prop :=
  ∀ front, front <+: columns → size * count predicates front ≤ maxCombinations

variable {complex : ComplexInline} {predicates others : NameMap Predicate} {column : String}
  {columns : List String} {values combination : List Value}
  {combinations next all : List (List Value)}

/-! ## Building up -/

theorem columnValues_eq_ok_iff {width : Nat} :
    columnValues width column (predicates.get? column) = .ok values ↔
      ¬ Unlisted predicates column ∧ listed predicates column = values := by
  unfold columnValues Unlisted listed
  rcases predicates.get? column with _ | _ | _ | _ <;> simp

/-- Every combination with every value behind it, the combinations varying slowest. -/
def lengthened (combinations : List (List Value)) (values : List Value) : List (List Value) :=
  combinations.flatMap fun before => values.map fun value => before ++ [value]

theorem length_lengthened :
    (lengthened combinations values).length = combinations.length * values.length := by
  simp [lengthened, List.length_flatMap, List.map_const', List.sum_replicate]

theorem mem_lengthened_iff : combination ∈ lengthened combinations values ↔
    ∃ before ∈ combinations, ∃ value ∈ values, before ++ [value] = combination := by
  simp only [lengthened, List.mem_flatMap, List.mem_map]

theorem extend_eq_ok_iff : complex.extend predicates combinations column = .ok next ↔
    ¬ Unlisted predicates column ∧
      combinations.length * (listed predicates column).length ≤ maxCombinations ∧
      lengthened combinations (listed predicates column) = next := by
  simp only [extend, bind_eq_ok, columnValues_eq_ok_iff]
  constructor
  · rintro ⟨_, ⟨known, rfl⟩, extended⟩
    split at extended
    next => cases extended
    next few => exact ⟨known, Nat.not_lt.mp few, pure_eq_ok.mp extended⟩
  · rintro ⟨known, few, rfl⟩
    exact ⟨_, ⟨known, rfl⟩, if_neg (Nat.not_lt.mpr few)⟩

theorem countsWithin_nil {size : Nat} :
    CountsWithin predicates size [] ↔ size ≤ maxCombinations := by
  simp [CountsWithin, count]

theorem countsWithin_cons {size : Nat} : CountsWithin predicates size (column :: columns) ↔
    size ≤ maxCombinations ∧
      CountsWithin predicates (size * (listed predicates column).length) columns := by
  simp only [CountsWithin, List.prefix_cons_iff, forall_eq_or_imp]
  constructor
  · rintro ⟨first, rest⟩
    refine ⟨by simpa [count] using first, fun front short => ?_⟩
    simpa [count, Nat.mul_assoc] using rest _ ⟨front, rfl, short⟩
  · rintro ⟨first, rest⟩
    refine ⟨by simpa [count] using first, ?_⟩
    rintro _ ⟨front, rfl, short⟩
    simpa [count, Nat.mul_assoc] using rest front short

theorem exists_foldlM_extend_iff (few : combinations.length ≤ maxCombinations) :
    (∃ all, columns.foldlM (complex.extend predicates) combinations = .ok all) ↔
      (∀ column ∈ columns, ¬ Unlisted predicates column) ∧
        CountsWithin predicates combinations.length columns := by
  induction columns generalizing combinations with
  | nil => simp [countsWithin_nil, few, pure_eq_ok]
  | cons column columns ih =>
      simp only [List.foldlM_cons, bind_eq_ok, extend_eq_ok_iff, List.forall_mem_cons,
        countsWithin_cons]
      constructor
      · rintro ⟨all, _, ⟨known, within, rfl⟩, rest⟩
        obtain ⟨others, counts⟩ := (ih (length_lengthened ▸ within)).mp ⟨all, rest⟩
        exact ⟨⟨known, others⟩, few, length_lengthened ▸ counts⟩
      · rintro ⟨⟨known, others⟩, -, counts⟩
        have within : combinations.length * (listed predicates column).length ≤
            maxCombinations := by
          simpa [count] using counts [] List.nil_prefix
        obtain ⟨all, rest⟩ := (ih (length_lengthened ▸ within)).mpr
          ⟨others, length_lengthened ▸ counts⟩
        exact ⟨all, _, ⟨known, within, rfl⟩, rest⟩

theorem mem_foldlM_extend_iff
    (folded : columns.foldlM (complex.extend predicates) combinations = .ok all) :
    combination ∈ all ↔ ∃ before ∈ combinations, ∃ after,
      Combines predicates columns after ∧ before ++ after = combination := by
  induction columns generalizing combinations with
  | nil =>
      cases folded
      simp [Combines]
  | cons column columns ih =>
      rw [List.foldlM_cons] at folded
      obtain ⟨_, extended, rest⟩ := bind_eq_ok.mp folded
      obtain ⟨-, -, rfl⟩ := extend_eq_ok_iff.mp extended
      simp only [ih rest, mem_lengthened_iff, Combines, List.forall₂_cons_left_iff]
      constructor
      · rintro ⟨_, ⟨before, member, value, own, rfl⟩, after, combines, rfl⟩
        exact ⟨before, member, value :: after, ⟨value, after, own, combines, rfl⟩, by simp⟩
      · rintro ⟨before, member, _, ⟨value, after, own, combines, rfl⟩, rfl⟩
        exact ⟨_, ⟨before, member, value, own, rfl⟩, after, combines, by simp⟩

theorem mem_combinations_iff (built : complex.combinations predicates = .ok all) :
    combination ∈ all ↔ Combines predicates complex.columns combination := by
  rw [mem_foldlM_extend_iff built]
  simp

theorem exists_combinations_iff : (∃ all, complex.combinations predicates = .ok all) ↔
    (∀ column ∈ complex.columns, ¬ Unlisted predicates column) ∧
      CountsWithin predicates 1 complex.columns :=
  exists_foldlM_extend_iff (by decide)

/-! ## Selecting -/

/-- The columns' values lead to the name, in any spelling, in some combination. -/
def Reaches (complex : ComplexInline) (predicates : NameMap Predicate) (name : String) : Prop :=
  ∃ combination, Combines predicates complex.columns combination ∧ ∃ target,
    complex.template.evaluate (bindings complex.columns combination) = .ok target ∧
      Name.Same target name

/-- All combinations of the columns' values. -/
def tuples (complex : ComplexInline) (predicates : NameMap Predicate) : List (List Value) :=
  (complex.columns.map (listed predicates)).sections

theorem mem_tuples_iff :
    combination ∈ complex.tuples predicates ↔ Combines predicates complex.columns combination := by
  rw [tuples, List.mem_sections, List.forall₂_map_right_iff]
  exact ⟨List.Forall₂.flip, List.Forall₂.flip⟩

instance (complex : ComplexInline) (predicates : NameMap Predicate) (name : String) :
    Decidable (complex.Reaches predicates name) :=
  decidable_of_iff (∃ combination ∈ complex.tuples predicates, ∃ target,
      complex.template.evaluate (bindings complex.columns combination) = .ok target ∧
        Name.Same target name)
    (by simp only [Reaches, mem_tuples_iff])

variable {candidates places : List String}

theorem retain_eq_filter (built : complex.combinations predicates = .ok all) {targets : List String}
    (evaluated : List.Forall₂ (fun combination target =>
      complex.template.evaluate (bindings complex.columns combination) = .ok target) all targets) :
    retain candidates targets =
      candidates.filter fun candidate => decide (complex.Reaches predicates candidate) := by
  refine List.filter_congr fun candidate _ => ?_
  rw [Bool.eq_iff_iff, List.contains_iff_mem, List.mem_map, decide_eq_true_iff]
  constructor
  · rintro ⟨target, member, same⟩
    obtain ⟨combination, tried, found⟩ := exists_left_of_mem evaluated member
    exact ⟨combination, (mem_combinations_iff built).mp tried, target, found, same⟩
  · rintro ⟨combination, combines, target, found, same⟩
    obtain ⟨other, member, foundOther⟩ :=
      exists_right_of_mem evaluated ((mem_combinations_iff built).mpr combines)
    cases found.symm.trans foundOther
    exact ⟨target, member, same⟩

theorem select_eq_ok_iff : complex.select candidates predicates = .ok places ↔
    (∃ all, complex.combinations predicates = .ok all) ∧
      (∀ combination, Combines predicates complex.columns combination →
        ∃ name, complex.template.evaluate (bindings complex.columns combination) = .ok name) ∧
      (candidates.filter fun candidate => decide (complex.Reaches predicates candidate)) =
        places := by
  simp only [select, bind_eq_ok, pure_eq_ok, mapM_eq_ok_iff, target, Template.target_eq_ok_iff]
  constructor
  · rintro ⟨all, built, targets, evaluated, rfl⟩
    refine ⟨⟨all, built⟩, fun combination combines => ?_, (retain_eq_filter built evaluated).symm⟩
    obtain ⟨name, -, found⟩ :=
      exists_right_of_mem evaluated ((mem_combinations_iff built).mpr combines)
    exact ⟨name, found⟩
  · rintro ⟨⟨all, built⟩, evaluate, rfl⟩
    obtain ⟨targets, evaluated⟩ := exists_forall₂_iff.mpr fun combination member =>
      evaluate combination ((mem_combinations_iff built).mp member)
    exact ⟨all, built, targets, evaluated, retain_eq_filter built evaluated⟩

theorem select_fails_iff : (∃ error, complex.select candidates predicates = .error error) ↔
    (∃ column ∈ complex.columns, Unlisted predicates column) ∨
    (∃ front, front <+: complex.columns ∧ maxCombinations < count predicates front) ∨
    ∃ combination, Combines predicates complex.columns combination ∧
      ∃ fault, complex.template.evaluate (bindings complex.columns combination) = .error fault := by
  have places : (∃ places, complex.select candidates predicates = .ok places) ↔
      ((∀ column ∈ complex.columns, ¬ Unlisted predicates column) ∧
        ∀ front, front <+: complex.columns → count predicates front ≤ maxCombinations) ∧
      ∀ combination, Combines predicates complex.columns combination →
        ∃ name, complex.template.evaluate (bindings complex.columns combination) = .ok name := by
    simp only [select_eq_ok_iff, exists_and_left, exists_eq', and_true, exists_combinations_iff,
      CountsWithin, Nat.one_mul]
  rw [exists_error_iff, places]
  simp only [exists_error_iff, not_and_or, not_forall, exists_prop, not_not, Nat.not_le, or_assoc]

/-! ## Rearranged values -/

/-- The others list the same values for the columns, in any order and any number of times. -/
structure Rearranges (columns : List String) (predicates others : NameMap Predicate) : Prop where
  given : ∀ column ∈ columns, ¬ Unlisted others column
  same : ∀ column ∈ columns, ∀ value,
    value ∈ listed others column ↔ value ∈ listed predicates column

theorem combines_congr (same : ∀ column ∈ columns, ∀ value,
    value ∈ listed others column ↔ value ∈ listed predicates column) :
    Combines others columns combination ↔ Combines predicates columns combination := by
  induction columns generalizing combination with
  | nil => simp [Combines]
  | cons column columns ih =>
      obtain ⟨first, rest⟩ := List.forall_mem_cons.mp same
      have later := @ih
      simp only [Combines] at later
      simp only [Combines, List.forall₂_cons_left_iff, first, later rest]

theorem Rearranges.select_eq (rearranges : Rearranges complex.columns predicates others)
    (within : ∀ front, front <+: complex.columns → count others front ≤ maxCombinations)
    (selected : complex.select candidates predicates = .ok places) :
    complex.select candidates others = .ok places := by
  have alike : ∀ combination, Combines others complex.columns combination ↔
      Combines predicates complex.columns combination :=
    fun _ => combines_congr rearranges.same
  obtain ⟨-, evaluate, rfl⟩ := select_eq_ok_iff.mp selected
  refine select_eq_ok_iff.mpr ⟨exists_combinations_iff.mpr ⟨rearranges.given, ?_⟩, ?_, ?_⟩
  · simpa only [CountsWithin, Nat.one_mul] using within
  · exact fun combination combines => evaluate combination ((alike combination).mp combines)
  · refine List.filter_congr fun candidate _ => decide_eq_decide.mpr ?_
    simp only [Reaches, alike]

/-! ## Single combinations -/

/-- Predicates that give one value to each column. -/
def single (columns : List String) (combination : List Value) : NameMap Predicate :=
  .ofList (columns.zip (combination.map .equal))

theorem get?_single (distinct : columns.Nodup)
    (combines : Combines predicates columns combination) :
    List.Forall₂ (fun column value =>
      (single columns combination).get? column = some (.equal value)) columns combination := by
  have sized := combines.length_eq
  refine List.forall₂_iff_zip.mpr ⟨sized, fun member => ?_⟩
  refine NameMap.get?_ofList_of_nodup ?_ ?_
  · rwa [List.map_fst_zip (by simp [sized])]
  · rw [List.zip_map_right]
    exact List.mem_map_of_mem member

section

variable (given : List.Forall₂ (fun column value => predicates.get? column = some (.equal value))
    columns combination)

include given

theorem combines_iff_of_equal {other : List Value} :
    Combines predicates columns other ↔ other = combination := by
  induction given generalizing other with
  | nil => simp [Combines]
  | @cons column value _ _ first _ ih =>
      have own : listed predicates column = [value] := by rw [listed, first]
      simp only [Combines] at ih
      simp only [Combines, List.forall₂_cons_left_iff, own, List.mem_singleton, ih]
      constructor
      · rintro ⟨_, _, rfl, rfl, rfl⟩
        rfl
      · rintro rfl
        exact ⟨value, _, rfl, rfl, rfl⟩

theorem exists_combinations_of_equal (columns_eq : complex.columns = columns) :
    ∃ all, complex.combinations predicates = .ok all := by
  have equal : ∀ column ∈ columns, ∃ value, predicates.get? column = some (.equal value) :=
    exists_forall₂_iff.mp ⟨combination, given⟩
  subst columns_eq
  refine exists_combinations_iff.mpr ⟨fun column member => ?_, fun front short => ?_⟩
  · obtain ⟨value, found⟩ := equal column member
    simp [Unlisted, found]
  · have one : count predicates front = 1 := by
      refine List.prod_eq_one (List.forall_mem_map.mpr fun column member => ?_)
      obtain ⟨value, found⟩ := equal column (short.subset member)
      rw [listed, found, List.length_singleton]
    rw [one]
    decide

end

theorem select_single {target : String} (distinct : complex.columns.Nodup)
    (combines : Combines predicates complex.columns combination)
    (found : complex.template.evaluate (bindings complex.columns combination) = .ok target) :
    complex.select candidates (single complex.columns combination) =
      .ok (candidates.filter fun candidate => decide (Name.Same target candidate)) := by
  have given := get?_single distinct combines
  refine select_eq_ok_iff.mpr ⟨exists_combinations_of_equal given rfl, ?_, ?_⟩
  · rintro other combinesOther
    rw [(combines_iff_of_equal given).mp combinesOther]
    exact ⟨target, found⟩
  · refine List.filter_congr fun candidate _ => decide_eq_decide.mpr ?_
    simp [Reaches, combines_iff_of_equal given, found]

theorem select_eq_union (distinct : complex.columns.Nodup)
    (selected : complex.select candidates predicates = .ok places) :
    ∃ results, (complex.tuples predicates).mapM (fun combination =>
        complex.select candidates (single complex.columns combination)) = .ok results ∧
      places = candidates.filter fun candidate => decide (candidate ∈ results.flatten) := by
  obtain ⟨-, evaluate, rfl⟩ := select_eq_ok_iff.mp selected
  have each : ∀ combination ∈ complex.tuples predicates, ∃ own,
      complex.select candidates (single complex.columns combination) = .ok own := by
    intro combination member
    have combines := mem_tuples_iff.mp member
    obtain ⟨target, found⟩ := evaluate combination combines
    exact ⟨_, select_single distinct combines found⟩
  obtain ⟨results, paired⟩ := exists_forall₂_iff.mpr each
  refine ⟨results, mapM_eq_ok_iff.mpr paired, ?_⟩
  refine List.filter_congr fun candidate inside => decide_eq_decide.mpr ?_
  rw [List.mem_flatten]
  constructor
  · rintro ⟨combination, combines, target, found, same⟩
    obtain ⟨own, member, ownSelected⟩ := exists_right_of_mem paired (mem_tuples_iff.mpr combines)
    cases (select_single distinct combines found).symm.trans ownSelected
    exact ⟨_, member, List.mem_filter.mpr ⟨inside, decide_eq_true same⟩⟩
  · rintro ⟨own, member, named⟩
    obtain ⟨combination, tried, ownSelected⟩ := exists_left_of_mem paired member
    have combines := mem_tuples_iff.mp tried
    obtain ⟨target, found⟩ := evaluate combination combines
    cases (select_single distinct combines found).symm.trans ownSelected
    exact ⟨combination, combines, target, found, of_decide_eq_true (List.mem_filter.mp named).2⟩

/-- A placement by several columns fails exactly if some column has no value or a range of them, if
after some column there are too many combinations, or if the template fails for some combination.
Otherwise it selects the candidates that some combination leads to, in candidate order. However the
values of the columns are rearranged or repeated, the same candidates are selected as long as there
are not too many combinations, and together they are what the combinations select one by one. -/
theorem combinations_are_evaluated (complex : ComplexInline) (candidates : List String)
    (predicates : NameMap Predicate) :
    ((∃ error, complex.placement.select candidates predicates = .error error) ↔
      (∃ column ∈ complex.columns, Unlisted predicates column) ∨
      (∃ front, front <+: complex.columns ∧ 65536 < count predicates front) ∨
      ∃ combination, Combines predicates complex.columns combination ∧ ∃ fault,
        complex.template.evaluate (bindings complex.columns combination) = .error fault) ∧
    ∀ places, complex.placement.select candidates predicates = .ok places →
      (places = candidates.filter fun candidate =>
        decide (complex.Reaches predicates candidate)) ∧
      (∀ others, Rearranges complex.columns predicates others →
        (∀ front, front <+: complex.columns → count others front ≤ 65536) →
        complex.placement.select candidates others = .ok places) ∧
      (complex.columns.Nodup → ∃ results,
        (complex.tuples predicates).mapM (fun combination =>
          complex.placement.select candidates (single complex.columns combination)) =
            .ok results ∧
        places = candidates.filter fun candidate => decide (candidate ∈ results.flatten)) := by
  refine ⟨select_fails_iff, fun places selected => ⟨?_, fun others rearranges within => ?_,
    fun distinct => select_eq_union distinct selected⟩⟩
  · exact (select_eq_ok_iff.mp selected).2.2.symm
  · exact rearranges.select_eq within selected

private def sums : ComplexInline where
  columns := ["x", "y"]
  template :=
    { source := "t_$\x7b(x + y) % 4\x7d"
      parts := [.literal "t_", .placeholder (.single (.binary .rem
        (.binary .add (.name "x") (.name "y")) (.int 4)))] }

private def sumTables : List String :=
  ["t_3", "t_2", "t_1", "t_0"]

private def points (xs : Predicate) : NameMap Predicate :=
  .ofList [("x", xs), ("y", .equal (.text "1"))]

private theorem get?_points (xs : Predicate) :
    (points xs).get? "x" = some xs ∧
      (points xs).get? "y" = some (.equal (.text "1")) := by
  have distinct : ["x", "y"].Nodup := by decide
  exact ⟨NameMap.get?_ofList_of_nodup distinct (by simp),
    NameMap.get?_ofList_of_nodup distinct (by simp)⟩

/-- Two values of one column, then the same with one of them repeated, then a range of them. -/
theorem sums_are_evaluated :
    (∃ results, (sums.tuples (points (.among [.int 1, .int 2]))).mapM (fun combination =>
        sums.placement.select sumTables (single sums.columns combination)) = .ok results ∧
      ["t_3", "t_2"] = sumTables.filter fun candidate => decide (candidate ∈ results.flatten)) ∧
    sums.placement.select sumTables (points (.among [.int 2, .int 1, .int 2])) =
      .ok ["t_3", "t_2"] ∧
    ∃ error, sums.placement.select sumTables (points (.within .all)) = .error error := by
  have selected : sums.placement.select sumTables (points (.among [.int 1, .int 2])) =
      .ok ["t_3", "t_2"] := by decide +kernel
  obtain ⟨-, evaluated⟩ := combinations_are_evaluated sums sumTables
    (points (.among [.int 1, .int 2]))
  obtain ⟨-, rearranged, united⟩ := evaluated _ selected
  have ranged := combinations_are_evaluated sums sumTables (points (.within .all))
  have fewer : ∀ front ∈ sums.columns.inits,
      count (points (.among [.int 2, .int 1, .int 2])) front ≤ 65536 := by decide +kernel
  refine ⟨united (by decide), rearranged _ ⟨?_, ?_⟩ ?_, ranged.1.mpr (.inl ⟨"x", ?_, ?_⟩)⟩
  · simp [sums, Unlisted, get?_points]
  · simp [sums, listed, get?_points, or_comm]
  · exact fun front short => fewer front ((List.mem_inits _ _).mpr short)
  · exact List.mem_cons_self
  · exact .inr ⟨.all, (get?_points _).1⟩

end ComplexInline

end Sharding
