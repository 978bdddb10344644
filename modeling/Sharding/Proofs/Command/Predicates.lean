import Mathlib.Data.List.Perm.Basic
import Sharding.Command.Run
import Sharding.Proofs.Hint.History
import Sharding.Proofs.Statement
import Sharding.Proofs.Text.Around

/-!
# Predicates on the command line

Every predicate of a request is read by the form of its option, and all of them together make up
the statement: one condition for each table that they name, with each predicate in the condition on
its table. The hint context is free again after the command, whatever became of it.
-/

set_option autoImplicit false

namespace Sharding.Command

open Text (CutAt HasMark Joins trim isBlankText)

/-- What the option of a predicate requires of its column. -/
inductive Form where
  | equality
  | list
  | range
  deriving DecidableEq

def Form.read : Form → String → Except CommandFault Predicate
  | .equality => readEqual
  | .list => readAmong
  | .range => readWithin

/-- The side of a range is open if nothing is on it. -/
def side (text : String) : Bound :=
  if isBlankText text then .unbounded else .included (.ofLiteral (trim text))

/-- A text requires a predicate of a column. -/
inductive Form.Requires : Form → String → Predicate → Prop where
  | equality (text : String) : Requires .equality text (.equal (.ofLiteral text))
  | list {text : String} {parts : List String} (joined : Joins ',' parts text) :
      Requires .list text (.among (parts.map Value.ofLiteral))
  | range {text lower upper : String} (sides : CutAt ".." text lower upper) :
      Requires .range text (.within ⟨side lower, side upper⟩)

/-- A text is `table.column=required`. -/
inductive Form.Writes (form : Form) (text : String) : TablePredicate → Prop where
  | sides {left right table column : String} {predicate : Predicate}
      (equals : CutAt "=" text left right) (point : CutAt "." (trim left) table column)
      (named : table ≠ "") (onColumn : column ≠ "") (filled : ¬ isBlankText right)
      (required : form.Requires (trim right) predicate) :
      Writes form text ⟨table, ⟨column, predicate⟩⟩

/-- The ways in which a text is no predicate. -/
inductive Form.Malformed (form : Form) (text : String) : Prop where
  | noEquals (absent : ¬ HasMark "=" text)
  | blankSide {left right : String} (equals : CutAt "=" text left right)
      (blank : isBlankText left ∨ isBlankText right)
  | noPoint {left right : String} (equals : CutAt "=" text left right)
      (absent : ¬ HasMark "." left)
  | emptyName {left right table column : String} (equals : CutAt "=" text left right)
      (point : CutAt "." (trim left) table column) (empty : table = "" ∨ column = "")
  | noDots {left right : String} (range : form = .range) (equals : CutAt "=" text left right)
      (absent : ¬ HasMark ".." right)

/-- The predicates of a request as they are written, in the order in which they are read. -/
def RouteRequest.written (request : RouteRequest) : List (Form × String) :=
  request.equal.map (Form.equality, ·) ++ request.among.map (Form.list, ·) ++
    request.within.map (Form.range, ·)

variable {form : Form} {text left right : String}

/-! ## Single predicates -/

theorem hasMark_point_trim : HasMark "." (trim text) ↔ HasMark "." text :=
  Text.hasMark_trim (by decide) (by decide)

theorem hasMark_dots_trim : HasMark ".." (trim text) ↔ HasMark ".." text :=
  Text.hasMark_trim (by decide) (by decide)

theorem isEmpty_trim : (trim text).isEmpty = isBlankText text := by
  rw [Bool.eq_iff_iff, String.isEmpty_iff, Text.trim_eq_empty_iff]

theorem pair?_eq_some_iff {pair : String × String} :
    pair? text = some pair ↔ ∃ left right, CutAt "=" text left right ∧
      ¬ isBlankText left ∧ ¬ isBlankText right ∧ pair = (trim left, trim right) := by
  rw [pair?, Option.bind_eq_bind, Option.bind_eq_some_iff, Prod.exists]
  simp only [Text.around?_eq_some_iff (by decide : "=" ≠ ""), isEmpty_trim,
    Option.ite_none_left_eq_some, Bool.or_eq_true, not_or, Option.some.injEq, and_assoc,
    eq_comm (b := pair)]

theorem target?_eq_some_iff {target : String × String} :
    target? text = some target ↔
      CutAt "." text target.1 target.2 ∧ target.1 ≠ "" ∧ target.2 ≠ "" := by
  rw [target?, Option.bind_eq_bind, Option.bind_eq_some_iff, Prod.exists]
  simp only [Text.around?_eq_some_iff (by decide : "." ≠ ""), Option.ite_none_left_eq_some,
    Bool.or_eq_true, String.isEmpty_iff, not_or, Option.some.injEq]
  constructor
  · rintro ⟨table, column, point, filled, rfl⟩
    exact ⟨point, filled⟩
  · rintro ⟨point, filled⟩
    exact ⟨_, _, point, filled, rfl⟩

theorem splitPredicate_eq_ok_iff {target : Target} :
    splitPredicate text = .ok target ↔ ∃ left right, CutAt "=" text left right ∧
      ¬ isBlankText left ∧ ¬ isBlankText right ∧ CutAt "." (trim left) target.table target.column ∧
      target.table ≠ "" ∧ target.column ≠ "" ∧ trim right = target.required := by
  rw [splitPredicate, bind_eq_ok]
  constructor
  · rintro ⟨pair, split, targeted⟩
    rw [splitPair] at split
    cases paired : pair? text with
    | none => simp [paired] at split
    | some found =>
        rw [paired] at split
        cases split
        obtain ⟨left, right, equals, leftFilled, rightFilled, rfl⟩ := pair?_eq_some_iff.mp paired
        cases pointed : target? (trim left) with
        | none => simp [pointed] at targeted
        | some names =>
            simp only [pointed] at targeted
            cases targeted
            obtain ⟨point, named, onColumn⟩ := target?_eq_some_iff.mp pointed
            exact ⟨left, right, equals, leftFilled, rightFilled, point, named, onColumn, rfl⟩
  · rintro ⟨left, right, equals, leftFilled, rightFilled, point, named, onColumn, required⟩
    have paired := pair?_eq_some_iff.mpr ⟨left, right, equals, leftFilled, rightFilled, rfl⟩
    have pointed : target? (trim left) = some (target.table, target.column) :=
      target?_eq_some_iff.mpr ⟨point, named, onColumn⟩
    refine ⟨_, by rw [splitPair, paired], ?_⟩
    simp only [pointed, required]
    rfl

theorem readRange_of_cutAt {lower upper : String} (sides : CutAt ".." text lower upper) :
    readRange text = .ok ⟨side lower, side upper⟩ := by
  rw [readRange, (Text.around?_eq_some_iff (by decide)).mpr sides]
  simp only [isEmpty_trim, side]
  cases isBlankText lower <;> cases isBlankText upper <;> rfl

theorem readRange_eq_ok_iff {range : ValueRange} :
    readRange text = .ok range ↔
      ∃ lower upper, CutAt ".." text lower upper ∧ range = ⟨side lower, side upper⟩ := by
  constructor
  · intro ranged
    cases divided : Text.around? ".." text with
    | none => simp [readRange, divided] at ranged
    | some sides =>
        have cut := (Text.around?_eq_some_iff (by decide)).mp divided
        rw [readRange_of_cutAt cut] at ranged
        cases ranged
        exact ⟨sides.1, sides.2, cut, rfl⟩
  · rintro ⟨lower, upper, sides, rfl⟩
    exact readRange_of_cutAt sides

theorem Form.read_eq_ok_iff {predicate : Predicate} :
    form.read text = .ok predicate ↔ form.Requires text predicate := by
  cases form with
  | equality =>
      constructor
      · rintro ⟨⟩
        exact .equality text
      · rintro ⟨⟩
        rfl
  | list =>
      constructor
      · rintro ⟨⟩
        exact .list (Text.splitOn_eq_iff.mp rfl)
      · rintro ⟨⟩
        next joined => rw [read, readAmong, commaParts, Text.splitOn_eq_iff.mpr joined]
  | range =>
      rw [read, readWithin]
      constructor
      · intro done
        cases ranged : readRange text with
        | error fault => simp [ranged, Except.map] at done
        | ok range =>
            rw [ranged] at done
            cases done
            obtain ⟨lower, upper, cut, rfl⟩ := readRange_eq_ok_iff.mp ranged
            exact .range cut
      · rintro ⟨⟩
        next cut => rw [readRange_eq_ok_iff.mpr ⟨_, _, cut, rfl⟩, Except.map]

theorem readPredicate_eq_ok_iff {predicate : TablePredicate} :
    readPredicate form.read text = .ok predicate ↔ form.Writes text predicate := by
  rw [readPredicate, bind_eq_ok]
  simp only [bind_eq_ok, splitPredicate_eq_ok_iff, Form.read_eq_ok_iff]
  constructor
  · rintro ⟨⟨table, column, required⟩, ⟨left, right, equals, _, filled, point, named, onColumn,
      rfl⟩, predicate, requires, done⟩
    cases done
    exact .sides equals point named onColumn filled requires
  · rintro ⟨equals, point, named, onColumn, filled, requires⟩
    refine ⟨⟨_, _, _⟩, ⟨_, _, equals, ?_, filled, point, named, onColumn, rfl⟩, _, requires, rfl⟩
    intro blank
    exact point.hasMark.ne_empty (by decide) (Text.trim_eq_empty_iff.mpr blank)

theorem Form.Malformed.not_writes {predicate : TablePredicate} (malformed : form.Malformed text) :
    ¬ form.Writes text predicate := by
  rintro ⟨equals, point, named, onColumn, filled, required⟩
  cases malformed with
  | noEquals absent => exact absent equals.hasMark
  | blankSide others blank =>
      obtain ⟨rfl, rfl⟩ := equals.eq others
      rcases blank with blank | blank
      · exact point.hasMark.ne_empty (by decide) (Text.trim_eq_empty_iff.mpr blank)
      · exact filled blank
  | noPoint others absent =>
      obtain ⟨rfl, rfl⟩ := equals.eq others
      exact absent (hasMark_point_trim.mp point.hasMark)
  | emptyName others pointed empty =>
      obtain ⟨rfl, rfl⟩ := equals.eq others
      obtain ⟨rfl, rfl⟩ := point.eq pointed
      exact empty.elim named onColumn
  | noDots range others absent =>
      obtain ⟨rfl, rfl⟩ := equals.eq others
      subst range
      cases required with
      | range sides => exact absent (hasMark_dots_trim.mp sides.hasMark)

theorem Form.exists_requires (form : Form) (dotted : form = .range → HasMark ".." right) :
    ∃ predicate, form.Requires (trim right) predicate := by
  cases form with
  | equality => exact ⟨_, .equality _⟩
  | list => exact ⟨_, .list (Text.splitOn_eq_iff.mp rfl)⟩
  | range =>
      obtain ⟨lower, upper, sides⟩ :=
        (hasMark_dots_trim.mpr (dotted rfl)).exists_cutAt (by decide)
      exact ⟨_, .range sides⟩

theorem Form.exists_writes (sound : ¬ form.Malformed text) :
    ∃ predicate, form.Writes text predicate := by
  have marked : HasMark "=" text := by_contra fun absent => sound (.noEquals absent)
  obtain ⟨left, right, equals⟩ := marked.exists_cutAt (by decide)
  have pointed : HasMark "." left := by_contra fun absent => sound (.noPoint equals absent)
  obtain ⟨table, column, point⟩ := (hasMark_point_trim.mpr pointed).exists_cutAt (by decide)
  have named : table ≠ "" := fun empty => sound (.emptyName equals point (.inl empty))
  have onColumn : column ≠ "" := fun empty => sound (.emptyName equals point (.inr empty))
  have filled : ¬ isBlankText right := fun blank => sound (.blankSide equals (.inr blank))
  obtain ⟨predicate, required⟩ := form.exists_requires fun range =>
    by_contra fun absent => sound (.noDots range equals absent)
  exact ⟨_, .sides equals point named onColumn filled required⟩

/-- A text is either a predicate or malformed. -/
theorem Form.malformed_iff : form.Malformed text ↔ ¬ ∃ predicate, form.Writes text predicate :=
  ⟨fun malformed ⟨_, writes⟩ => malformed.not_writes writes,
    fun nothing => by_contra fun sound => nothing (exists_writes sound)⟩

/-! ## All predicates of a request -/

variable {request : RouteRequest}

theorem predicates_eq_mapM :
    request.predicates = request.written.mapM fun item => readPredicate item.1.read item.2 := by
  simp only [RouteRequest.predicates, RouteRequest.written, List.mapM_append, List.mapM_map,
    bind_assoc, pure_bind]
  rfl

theorem predicates_eq_ok_iff {predicates : List TablePredicate} :
    request.predicates = .ok predicates ↔
      List.Forall₂ (fun item predicate => item.1.Writes item.2 predicate) request.written
        predicates := by
  simp only [predicates_eq_mapM, mapM_eq_ok_iff, readPredicate_eq_ok_iff]

theorem predicates_fail_iff :
    (∃ fault, request.predicates = .error fault) ↔
      ∃ item ∈ request.written, item.1.Malformed item.2 := by
  simp only [exists_error_iff, predicates_eq_ok_iff, exists_forall₂_iff, Form.malformed_iff]
  push Not
  rfl

/-! ## Conditions -/

section

variable {predicates : List TablePredicate} {predicate : TablePredicate}
  {conditions : List Condition}

/-- A predicate goes into a condition on its table, or into a new one if there is none. -/
theorem addPredicate_cases (conditions : List Condition) (predicate : TablePredicate) :
    ((∀ condition ∈ conditions, ¬ condition.AppliesTo predicate.table) ∧
      addPredicate conditions predicate =
        conditions ++ [⟨predicate.table, [predicate.entry]⟩]) ∨
    ∃ before condition after, conditions = before ++ condition :: after ∧
      condition.AppliesTo predicate.table ∧
      addPredicate conditions predicate = before ++
        { condition with columns := condition.columns ++ [predicate.entry] } :: after := by
  induction conditions with
  | nil => exact .inl ⟨by simp, rfl⟩
  | cons condition conditions ih =>
      rw [addPredicate]
      split
      next applies => exact .inr ⟨[], condition, conditions, rfl, applies, rfl⟩
      next other =>
        rcases ih with ⟨others, added⟩ | ⟨before, found, after, rfl, applies, added⟩
        · exact .inl ⟨List.forall_mem_cons.mpr ⟨other, others⟩, by rw [added, List.cons_append]⟩
        · exact .inr ⟨condition :: before, found, after, rfl, applies, by
            rw [added, List.cons_append]⟩

/-- What the predicates on a table require of its columns. -/
def columnsOn (table : String) (predicates : List TablePredicate) : List ColumnPredicate :=
  (predicates.filter fun predicate => Name.Same table predicate.table).map (·.entry)

/-- There is one condition for each table of the predicates, and each predicate is in the one on
its table, in the order in which it came. -/
structure Gathers (predicates : List TablePredicate) (conditions : List Condition) : Prop where
  tables : conditions.map (·.table) = distinctNames (predicates.map (·.table))
  columns : ∀ condition ∈ conditions, condition.columns = columnsOn condition.table predicates
  once : (conditions.flatMap (·.columns)).Perm (predicates.map (·.entry))

theorem Gathers.pairwise (gathers : Gathers predicates conditions) :
    conditions.Pairwise fun first later => ¬ Name.Same first.table later.table := by
  have tables := distinctNames_pairwise (predicates.map (·.table))
  rwa [← gathers.tables, List.pairwise_map] at tables

/-- The condition on the table of a predicate is the only one. -/
theorem Gathers.own (gathers : Gathers predicates conditions) (member : predicate ∈ predicates) :
    ∃! condition, condition ∈ conditions ∧ condition.AppliesTo predicate.table := by
  obtain ⟨first, found, same⟩ :=
    exists_mem_distinctNames (List.mem_map_of_mem (f := (·.table)) member)
  rw [← gathers.tables] at found
  obtain ⟨condition, listed, rfl⟩ := List.mem_map.mp found
  refine ⟨condition, ⟨listed, same⟩, fun other ⟨otherListed, applies⟩ => ?_⟩
  by_contra different
  have : Std.Symm fun first later : Condition => ¬ Name.Same first.table later.table :=
    ⟨fun _ _ apart same => apart same.symm⟩
  exact gathers.pairwise.forall otherListed listed different (applies.trans same.symm)

theorem Gathers.applies_iff (gathers : Gathers predicates conditions) {name : String} :
    (∃ condition ∈ conditions, condition.AppliesTo name) ↔
      ∃ table ∈ predicates.map (·.table), Name.Same name table := by
  constructor
  · rintro ⟨condition, listed, applies⟩
    have first := List.mem_map_of_mem (f := (·.table)) listed
    rw [gathers.tables, mem_distinctNames_iff] at first
    exact ⟨_, List.mem_of_find?_eq_some first, applies.symm⟩
  · rintro ⟨table, member, same⟩
    obtain ⟨first, found, sameFirst⟩ := exists_mem_distinctNames member
    rw [← gathers.tables] at found
    obtain ⟨condition, listed, rfl⟩ := List.mem_map.mp found
    exact ⟨condition, listed, sameFirst.trans same.symm⟩

theorem columnsOn_concat_of_same {table : String} (same : Name.Same table predicate.table) :
    columnsOn table (predicates ++ [predicate]) =
      columnsOn table predicates ++ [predicate.entry] := by
  simp [columnsOn, same]

theorem columnsOn_concat_of_other {table : String} (other : ¬ Name.Same table predicate.table) :
    columnsOn table (predicates ++ [predicate]) = columnsOn table predicates := by
  simp [columnsOn, other]

theorem Gathers.concat (gathers : Gathers predicates conditions)
    (others : ∀ condition ∈ conditions, ¬ condition.AppliesTo predicate.table) :
    Gathers (predicates ++ [predicate])
      (conditions ++ [⟨predicate.table, [predicate.entry]⟩]) := by
  have unnamed : ∀ table ∈ predicates.map (·.table), ¬ Name.Same predicate.table table := by
    intro table member same
    obtain ⟨condition, listed, applies⟩ := gathers.applies_iff.mpr ⟨table, member, same⟩
    exact others condition listed applies
  constructor
  · rw [List.map_append, List.map_append, distinctNames_append, gathers.tables,
      List.filter_eq_self.mpr]
    · rfl
    · intro name single
      cases List.mem_singleton.mp single
      exact decide_eq_true unnamed
  · intro condition listed
    rcases List.mem_append.mp listed with listed | new
    · rw [columnsOn_concat_of_other (others condition listed)]
      exact gathers.columns condition listed
    · cases List.mem_singleton.mp new
      have earlier : columnsOn predicate.table predicates = [] := by
        simpa [columnsOn] using unnamed
      rw [columnsOn_concat_of_same (Name.Same.refl _), earlier]
      rfl
  · rw [List.flatMap_append, List.map_append]
    simpa using gathers.once.append_right [predicate.entry]

theorem Gathers.insert {before after : List Condition} {condition : Condition}
    (gathers : Gathers predicates (before ++ condition :: after))
    (applies : condition.AppliesTo predicate.table) :
    Gathers (predicates ++ [predicate]) (before ++
      { condition with columns := condition.columns ++ [predicate.entry] } :: after) := by
  obtain ⟨table, member, same⟩ := gathers.applies_iff.mp ⟨condition, by simp, applies⟩
  obtain ⟨_, behind, apart⟩ := List.pairwise_append.mp gathers.pairwise
  have others : ∀ other ∈ before ++ after, ¬ other.AppliesTo predicate.table := by
    intro other listed otherApplies
    rcases List.mem_append.mp listed with earlier | later
    · exact apart other earlier condition List.mem_cons_self (otherApplies.trans applies.symm)
    · exact (List.pairwise_cons.mp behind).1 other later (applies.trans otherApplies.symm)
  constructor
  · have tables := gathers.tables
    have named : distinctNames ((predicates ++ [predicate]).map (·.table)) =
        distinctNames (predicates.map (·.table)) := by
      rw [List.map_append, distinctNames_append, List.filter_eq_nil_iff.mpr, List.append_nil]
      intro name single
      cases List.mem_singleton.mp single
      exact fun apart => of_decide_eq_true apart table member same
    rw [named, ← tables]
    simp
  · intro other listed
    rcases List.mem_append.mp listed with earlier | later
    · rw [columnsOn_concat_of_other (others other (List.mem_append_left _ earlier))]
      exact gathers.columns other (List.mem_append_left _ earlier)
    · rcases List.mem_cons.mp later with rfl | later
      · rw [columnsOn_concat_of_same applies]
        exact congrArg (· ++ [predicate.entry]) (gathers.columns condition (by simp))
      · rw [columnsOn_concat_of_other (others other (List.mem_append_right _ later))]
        exact gathers.columns other (by simp [later])
  · have once := gathers.once.append_right [predicate.entry]
    rw [List.map_append, List.map_singleton]
    refine List.Perm.trans ?_ once
    simp only [List.flatMap_append, List.flatMap_cons, List.append_assoc]
    exact .append_left _ (.append_left _ List.perm_append_comm)

/-- One more predicate. -/
theorem Gathers.add (gathers : Gathers predicates conditions) (predicate : TablePredicate) :
    Gathers (predicates ++ [predicate]) (addPredicate conditions predicate) := by
  rcases addPredicate_cases conditions predicate with
    ⟨others, added⟩ | ⟨before, condition, after, rfl, applies, added⟩
  · rw [added]
    exact gathers.concat others
  · rw [added]
    exact gathers.insert applies

theorem gathers_foldl (predicates : List TablePredicate) :
    Gathers predicates (predicates.foldl addPredicate []) := by
  induction predicates using List.reverseRecOn with
  | nil => exact ⟨rfl, by simp, .nil⟩
  | append_singleton predicates predicate ih =>
      rw [List.foldl_append]
      exact ih.add predicate

end

/-! ## Statements -/

theorem refuse_eq_ok_iff {α : Type} {outcome : Except CommandFault α} {value : α} :
    refuse outcome = .ok value ↔ outcome = .ok value := by
  cases outcome <;> simp [refuse]

theorem refuse_eq_error_iff {α : Type} {outcome : Except CommandFault α} {error : Error} :
    refuse outcome = .error error ↔
      ∃ fault, outcome = .error fault ∧ error = .config (.command fault) := by
  cases outcome <;> simp [refuse, eq_comm]

theorem statement_eq_ok_iff {statement : Statement} :
    request.statement = .ok statement ↔ ∃ predicates, request.predicates = .ok predicates ∧
      statement = ⟨request.tables, predicates.foldl addPredicate []⟩ := by
  rw [RouteRequest.statement, bind_eq_ok]
  simp only [pure_eq_ok, eq_comm (a := statement)]

theorem statement_fails_iff :
    (∃ error, refuse request.statement = .error error) ↔
      ∃ item ∈ request.written, item.1.Malformed item.2 := by
  rw [← predicates_fail_iff, exists_error_iff, exists_error_iff]
  simp [refuse_eq_ok_iff, statement_eq_ok_iff]

/-! ## Hint contexts -/

/-- Taking the context and changing it leaves what the request is routed with. -/
theorem run_acquire_changes (changes : List Hint.Change) :
    HintContext.run none (.acquire :: changes.map .change) =
      changes.foldl HintContext.change (some {}) :=
  List.foldl_map

theorem routeRequest_of_changes {changes : List Hint.Change} (rule : Rule) (context : HintContext)
    (changed : request.changes = .ok changes) :
    routeRequest rule request context =
      (do rule.routeIn (changes.foldl HintContext.change context) (← refuse request.statement),
        changes.foldl HintContext.change context) := by
  simp only [routeRequest, changed, refuse]

theorem scope_routeRequest {changes : List Hint.Change} (rule : Rule)
    (changed : request.changes = .ok changes) :
    (HintContext.scope none (routeRequest rule request)).1 = (do
      rule.routeIn (HintContext.run none (.acquire :: changes.map .change))
        (← refuse request.statement)) := by
  rw [run_acquire_changes]
  exact congrArg Prod.fst (routeRequest_of_changes rule (some {}) changed)

/-- The command line keeps every predicate. The statement is refused, as a fault of the
configuration, exactly if a predicate is malformed. If none is, it has the tables as they were
given and one condition for each table that the predicates name in any spelling, with all
predicates on that table: equalities, then lists, then ranges. The command takes the hint context
for its work, and wherever that ends the context is free again. -/
theorem predicates_are_gathered (request : RouteRequest) :
    ((∃ error, refuse request.statement = .error error) ↔
      ∃ item ∈ request.written, item.1.Malformed item.2) ∧
    (∀ error, refuse request.statement = .error error →
      ∃ fault, error = .config (.command fault)) ∧
    ((∀ item ∈ request.written, ¬ item.1.Malformed item.2) →
      ∃ statement predicates, refuse request.statement = .ok statement ∧
        statement.tables = request.tables ∧
        List.Forall₂ (fun item predicate => item.1.Writes item.2 predicate) request.written
          predicates ∧
        Gathers predicates statement.conditions ∧
        FirstSpellings (predicates.map (·.table)) (statement.conditions.map (·.table)) ∧
        ∀ predicate ∈ predicates, ∃! condition,
          condition ∈ statement.conditions ∧ condition.AppliesTo predicate.table) ∧
    (∀ (rule : Rule) (clock : Clock),
      perform rule clock (.route request) =
        (HintContext.scope none (routeRequest rule request)).1.map .route ∧
      (HintContext.scope none (routeRequest rule request)).2 = none ∧
      ∀ changes, request.changes = .ok changes →
        (HintContext.scope none (routeRequest rule request)).1 = (do
          rule.routeIn (HintContext.run none (.acquire :: changes.map .change))
            (← refuse request.statement))) ∧
    ∀ changes : List Hint.Change,
      HintContext.run none (.acquire :: changes.map .change ++ [.release]) = none := by
  refine ⟨statement_fails_iff, ?_, ?_, ?_, ?_⟩
  · intro error failed
    obtain ⟨fault, _, same⟩ := refuse_eq_error_iff.mp failed
    exact ⟨fault, same⟩
  · intro sound
    have reads : ∃ predicates, request.predicates = .ok predicates := by
      simpa [exists_error_iff] using
        predicates_fail_iff.not.mpr fun ⟨item, member, malformed⟩ => sound item member malformed
    obtain ⟨predicates, read⟩ := reads
    have gathers := gathers_foldl predicates
    refine ⟨_, predicates, refuse_eq_ok_iff.mpr (statement_eq_ok_iff.mpr ⟨_, read, rfl⟩), rfl,
      predicates_eq_ok_iff.mp read, gathers, ?_, fun _ member => gathers.own member⟩
    rw [gathers.tables]
    exact distinctNames_firstSpellings _
  · intro rule clock
    refine ⟨?_, HintContext.scope_context none _, fun _ changed => scope_routeRequest rule changed⟩
    rw [perform]
    cases (HintContext.scope none (routeRequest rule request)).1 <;> rfl
  · intro changes
    rw [HintContext.run_concat]
    rfl

/-- Predicates on two tables, one of them in three spellings. -/
private def orderRequest : RouteRequest :=
  { tables := ["t_order", "t_item"]
    equal := ["T_Order.user_id = 7", "t_item.item_id=5"]
    among := ["t_order.order_id=1, 2,x"]
    within := ["T_ORDER.order_id=10..", "t_item.created= .. "]
    hintTable := ["t_order=3"] }

theorem order_predicates_are_gathered :
    (∀ item ∈ orderRequest.written, ¬ item.1.Malformed item.2) ∧
    ∃ statement predicates, refuse orderRequest.statement = .ok statement ∧
      List.Forall₂ (fun item predicate => item.1.Writes item.2 predicate) orderRequest.written
        predicates ∧
      predicates.map (·.table) = ["T_Order", "t_item", "t_order", "T_ORDER", "t_item"] ∧
      statement.conditions.map (·.table) = ["T_Order", "t_item"] ∧
      Gathers predicates statement.conditions := by
  obtain ⟨_, _, gathered, _⟩ := predicates_are_gathered orderRequest
  have reads : ∃ predicates, orderRequest.predicates = .ok predicates ∧
      predicates.map (·.table) = ["T_Order", "t_item", "t_order", "T_ORDER", "t_item"] := by
    decide +kernel
  obtain ⟨predicates, read, tables⟩ := reads
  have sound : ∀ item ∈ orderRequest.written, ¬ item.1.Malformed item.2 := by
    intro item member malformed
    obtain ⟨fault, failed⟩ := predicates_fail_iff.mpr ⟨item, member, malformed⟩
    exact nomatch read.symm.trans failed
  obtain ⟨statement, others, accepted, _, written, gathers, _⟩ := gathered sound
  obtain rfl : others = predicates :=
    Except.ok.inj ((predicates_eq_ok_iff.mpr written).symm.trans read)
  refine ⟨sound, statement, others, accepted, written, tables, ?_, gathers⟩
  rw [gathers.tables, tables]
  simp [distinctNames, Name.Same, Name.fold, ← String.toList_inj]

end Sharding.Command
