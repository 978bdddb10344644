import Mathlib.Algebra.BigOperators.Group.List.Basic
import Sharding.Proofs.Template.Arithmetic
import Sharding.Proofs.Template.Layout

/-!
# Expansion of templates

The names that a template without names in its placeholders stands for: one for every way to pick a
value of each placeholder, in lexicographic order. Expansion finds just these, or it fails because
a placeholder stands for no values or because there are too many names.
-/

set_option autoImplicit false

namespace Sharding.Template

/-! ## Choices -/

structure Pick where
  position : Nat
  value : Scalar

/-- The choices pick a value of each list in every way, and come in the order of their positions,
the first position counting most. -/
structure OrderedProduct (values : List (List Scalar)) (choices : List (List Pick)) : Prop where
  ordered : choices.Pairwise (List.Lex fun pick other => pick.position < other.position)
  complete : ∀ choice, choice ∈ choices ↔
    List.Forall₂ (fun own pick => own[pick.position]? = some pick.value) values choice

def picks (own : List Scalar) : List Pick :=
  own.zipIdx.map fun pair => ⟨pair.2, pair.1⟩

def choices : List (List Scalar) → List (List Pick)
  | [] => [[]]
  | own :: values => (picks own).flatMap fun pick => (choices values).map (pick :: ·)

section Choices

variable {own : List Scalar} {values : List (List Scalar)} {pick : Pick} {choice : List Pick}

theorem mem_picks_iff : pick ∈ picks own ↔ own[pick.position]? = some pick.value := by
  obtain ⟨position, value⟩ := pick
  simp [picks, List.mem_zipIdx_iff_getElem?]

theorem pairwise_picks :
    (picks own).Pairwise fun pick other => pick.position < other.position := by
  have increasing : (own.zipIdx.map Prod.snd).Pairwise (· < ·) := by
    rw [List.zipIdx_map_snd]
    exact List.pairwise_lt_range'
  exact List.pairwise_map.mpr (List.pairwise_map.mp increasing)

theorem map_value_picks : (picks own).map Pick.value = own := by
  simp [picks, Function.comp_def]

theorem mem_choices_iff : choice ∈ choices values ↔
    List.Forall₂ (fun own pick => own[pick.position]? = some pick.value) values choice := by
  induction values generalizing choice with
  | nil => simp [choices]
  | cons own values ih =>
      simp only [choices, List.mem_flatMap, List.mem_map, mem_picks_iff, ih,
        List.forall₂_cons_left_iff]
      constructor
      · rintro ⟨pick, among, others, rest, rfl⟩
        exact ⟨pick, others, among, rest, rfl⟩
      · rintro ⟨pick, others, among, rest, rfl⟩
        exact ⟨pick, among, others, rest, rfl⟩

theorem pairwise_choices (values : List (List Scalar)) :
    (choices values).Pairwise (List.Lex fun pick other => pick.position < other.position) := by
  induction values with
  | nil => simp [choices]
  | cons own values ih =>
      rw [choices, List.pairwise_flatMap]
      constructor
      · intro pick _
        exact List.pairwise_map.mpr (ih.imp List.Lex.cons)
      · refine pairwise_picks.imp fun earlier choice member other otherMember => ?_
        obtain ⟨_, -, rfl⟩ := List.mem_map.mp member
        obtain ⟨_, -, rfl⟩ := List.mem_map.mp otherMember
        exact .rel earlier

theorem orderedProduct_choices (values : List (List Scalar)) :
    OrderedProduct values (choices values) :=
  ⟨pairwise_choices values, fun _ => mem_choices_iff⟩

theorem length_choices (values : List (List Scalar)) :
    (choices values).length = (values.map List.length).prod := by
  induction values with
  | nil => rfl
  | cons own values ih =>
      simp [choices, picks, List.length_flatMap, ih, Function.comp_def, List.map_const',
        List.sum_replicate]

end Choices

/-! ## Values of placeholders -/

/-- The words from one to another, both included, in the direction written. -/
structure Consecutive (first last : Int64) (words : List Int64) : Prop where
  count : words.length = (last.toInt - first.toInt).natAbs + 1
  step : ∀ (index : Nat) (inside : index < words.length),
    words[index].toInt = first.toInt + (last.toInt - first.toInt).sign * index

/-- The values that a body without names stands for. -/
inductive Body.StandsFor : Body → List Scalar → Prop where
  | span {first last a b words} : first.operandWord unbound = .ok a →
      last.operandWord unbound = .ok b → Consecutive a b words → words.length ≤ maxNames →
      StandsFor (.span first last) (words.map .int)
  | list {items values} :
      List.Forall₂ (fun item value => Expression.eval unbound item = .ok value) items values →
      StandsFor (.single (.list items)) values
  | value {expression value} : expression.eval unbound = .ok value →
      StandsFor (.single expression) [value]

/-- Nothing is wrong with any part of an expression without names, and it stands for an integer. -/
structure Expression.IsWord (expression : Expression) : Prop where
  sound : ∀ part ∈ expression.parts, part.Sound unbound
  integer : expression.integer? unbound ≠ none

/-- Why a body stands for no values: something is wrong in an expression, an end of a span is no
integer, or the span is too long. -/
inductive Body.Refused : Body → Prop where
  | value {expression part} : (∀ items, expression ≠ .list items) → part ∈ expression.parts →
      ¬ part.Sound unbound → Refused (.single expression)
  | item {items item part} : item ∈ items → part ∈ item.parts → ¬ part.Sound unbound →
      Refused (.single (.list items))
  | first {first last} : ¬ first.IsWord → Refused (.span first last)
  | last {first last} : ¬ last.IsWord → Refused (.span first last)
  | long {first last a b} : first.integer? unbound = some a → last.integer? unbound = some b →
      maxNames < (b - a).natAbs + 1 → Refused (.span first last)

section Enumerate

variable {first last a b : Int64} {words : List Int64} {expression left right : Expression}
  {items : List Expression} {body : Body} {value : Scalar} {values : List Scalar}

theorem length_countFrom :
    (countFrom first last).length = (last.toInt - first.toInt).natAbs + 1 := by
  simp [countFrom]

theorem toInt_getElem_countFrom {index : Nat} (inside : index < (countFrom first last).length) :
    (countFrom first last)[index].toInt =
      first.toInt + (last.toInt - first.toInt).sign * index := by
  have near : index ≤ (last.toInt - first.toInt).natAbs := by
    rw [length_countFrom] at inside
    omega
  have firstFits := Word.fits_toInt first
  have lastFits := Word.fits_toInt last
  unfold Word.Fits at firstFits lastFits
  simp only [countFrom, List.getElem_map, List.getElem_range, Int64.le_iff_toInt_le]
  split
  next upward =>
    rw [Int64.toInt_ofInt_of_le (by omega) (by omega)]
    by_cases same : first.toInt = last.toInt
    · obtain rfl : index = 0 := by omega
      simp
    · rw [Int.sign_eq_one_of_pos (by omega), Int.one_mul]
  next downward =>
    rw [Int64.toInt_ofInt_of_le (by omega) (by omega), Int.sign_eq_neg_one_of_neg (by omega)]
    omega

theorem consecutive_iff : Consecutive first last words ↔ words = countFrom first last := by
  constructor
  · rintro ⟨count, step⟩
    refine List.ext_getElem (count.trans length_countFrom.symm) fun index inside other => ?_
    rw [← Int64.toInt_inj, step index inside, toInt_getElem_countFrom]
  · rintro rfl
    exact ⟨length_countFrom, fun _ => toInt_getElem_countFrom⟩

theorem bound_eq_ok_iff : expression.bound = .ok a ↔ expression.operandWord unbound = .ok a := by
  have read : (expression.eval unbound).bind Scalar.toInt = expression.operandWord unbound := rfl
  rw [Expression.bound, read]
  cases expression.operandWord unbound <;> simp

theorem constant_eq_ok_iff : expression.constant = .ok value ↔
    expression.eval unbound = .ok value := by
  rw [Expression.constant]
  cases expression.eval unbound <;> simp

theorem enumerate_span_eq_ok_iff : (Body.span left right).enumerate maxNames = .ok values ↔
    ∃ a b, left.operandWord unbound = .ok a ∧ right.operandWord unbound = .ok b ∧
      (countFrom a b).length ≤ maxNames ∧ (countFrom a b).map .int = values := by
  simp only [Body.enumerate, bind_eq_ok, bound_eq_ok_iff]
  constructor
  · rintro ⟨a, leftRead, b, rightRead, counted⟩
    split at counted
    next => cases counted
    next near =>
      refine ⟨a, b, leftRead, rightRead, ?_, pure_eq_ok.mp counted⟩
      rw [length_countFrom]
      omega
  · rintro ⟨a, b, leftRead, rightRead, short, counted⟩
    rw [length_countFrom] at short
    exact ⟨a, leftRead, b, rightRead, (if_neg (by omega)).trans (pure_eq_ok.mpr counted)⟩

theorem enumerate_list_eq_ok_iff : (Body.single (.list items)).enumerate maxNames = .ok values ↔
    List.Forall₂ (fun item value => Expression.eval unbound item = .ok value) items values := by
  simp only [Body.enumerate, mapM_eq_ok_iff, constant_eq_ok_iff]

theorem enumerate_value_eq_ok_iff (single : ∀ items, expression ≠ .list items) :
    (Body.single expression).enumerate maxNames = .ok values ↔
      ∃ value, expression.eval unbound = .ok value ∧ [value] = values := by
  rw [Body.enumerate]
  · simp only [bind_eq_ok, constant_eq_ok_iff, pure_eq_ok]
  · exact single

theorem enumerate_eq_ok_iff : body.enumerate maxNames = .ok values ↔ body.StandsFor values := by
  constructor
  · intro enumerated
    cases body using Body.enumerate.fun_cases with
    | case1 left right =>
        obtain ⟨a, b, leftRead, rightRead, short, rfl⟩ := enumerate_span_eq_ok_iff.mp enumerated
        exact .span leftRead rightRead (consecutive_iff.mpr rfl) short
    | case2 items => exact .list (enumerate_list_eq_ok_iff.mp enumerated)
    | case3 expression single =>
        obtain ⟨value, found, rfl⟩ := (enumerate_value_eq_ok_iff single).mp enumerated
        exact .value found
  · intro stands
    cases stands with
    | span leftRead rightRead consecutive short =>
        obtain rfl := consecutive_iff.mp consecutive
        exact enumerate_span_eq_ok_iff.mpr ⟨_, _, leftRead, rightRead, short, rfl⟩
    | list found => exact enumerate_list_eq_ok_iff.mpr found
    | value found =>
        refine (enumerate_value_eq_ok_iff ?_).mpr ⟨_, found, rfl⟩
        rintro items rfl
        cases found

/-! ## Bodies without values -/

theorem integer?_of_word (read : expression.operandWord unbound = .ok a) :
    expression.integer? unbound = some a.toInt :=
  Expression.integer?_of_operandWord (fun _ => Expression.integer?_of_eval) read

theorem isWord_iff : expression.IsWord ↔ ∃ word, expression.operandWord unbound = .ok word := by
  constructor
  · rintro ⟨sound, integer⟩
    obtain ⟨value, found⟩ := Expression.exists_eval_iff.mpr sound
    rw [Expression.integer?_of_eval found] at integer
    obtain ⟨n, reads⟩ := Option.ne_none_iff_exists'.mp integer
    obtain ⟨word, rfl⟩ := Word.exists_toInt_eq (Scalar.fits_of_integer? reads)
    exact ⟨word, bind_eq_ok.mpr ⟨value, found, Scalar.toInt_eq_ok_iff.mpr reads⟩⟩
  · rintro ⟨word, read⟩
    obtain ⟨value, found, -⟩ := bind_eq_ok.mp read
    refine ⟨Expression.exists_eval_iff.mp ⟨value, found⟩, ?_⟩
    exact ne_of_eq_of_ne (integer?_of_word read) (Option.some_ne_none _)

theorem exists_unsound_iff : (∃ part ∈ expression.parts, ¬ part.Sound unbound) ↔
    ¬ ∃ value, expression.eval unbound = .ok value := by
  rw [Expression.exists_eval_iff]
  simp only [not_forall, exists_prop]

theorem refused_span_iff : (Body.span left right).Refused ↔
    ¬ ∃ values, (Body.span left right).enumerate maxNames = .ok values := by
  simp only [enumerate_span_eq_ok_iff]
  constructor
  · rintro (_ | _ | notWord | notWord | ⟨leftExact, rightExact, long⟩)
      ⟨_, a, b, leftRead, rightRead, short, -⟩
    · exact notWord (isWord_iff.mpr ⟨a, leftRead⟩)
    · exact notWord (isWord_iff.mpr ⟨b, rightRead⟩)
    · cases leftExact.symm.trans (integer?_of_word leftRead)
      cases rightExact.symm.trans (integer?_of_word rightRead)
      rw [length_countFrom] at short
      omega
  · intro none
    by_cases leftWord : left.IsWord
    · by_cases rightWord : right.IsWord
      · obtain ⟨a, leftRead⟩ := isWord_iff.mp leftWord
        obtain ⟨b, rightRead⟩ := isWord_iff.mp rightWord
        refine .long (integer?_of_word leftRead) (integer?_of_word rightRead) ?_
        rw [← length_countFrom]
        by_contra short
        exact none ⟨_, a, b, leftRead, rightRead, not_lt.mp short, rfl⟩
      · exact .last rightWord
    · exact .first leftWord

theorem refused_list_iff : (Body.single (.list items)).Refused ↔
    ¬ ∃ values, (Body.single (.list items)).enumerate maxNames = .ok values := by
  simp only [enumerate_list_eq_ok_iff, exists_forall₂_iff]
  constructor
  · rintro (⟨single, -, -⟩ | ⟨member, inside, unsound⟩) found
    · exact single items rfl
    · exact exists_unsound_iff.mp ⟨_, inside, unsound⟩ (found _ member)
  · intro unfound
    obtain ⟨item, unfound⟩ := not_forall.mp unfound
    obtain ⟨member, unfound⟩ := Classical.not_imp.mp unfound
    obtain ⟨part, inside, unsound⟩ := exists_unsound_iff.mpr unfound
    exact .item member inside unsound

theorem refused_value_iff (single : ∀ items, expression ≠ .list items) :
    (Body.single expression).Refused ↔
      ¬ ∃ values, (Body.single expression).enumerate maxNames = .ok values := by
  simp only [enumerate_value_eq_ok_iff single, exists_comm, exists_and_left, exists_eq', and_true,
    ← exists_unsound_iff]
  constructor
  · rintro (⟨-, inside, unsound⟩ | _)
    · exact ⟨_, inside, unsound⟩
    · exact absurd rfl (single _)
  · rintro ⟨part, inside, unsound⟩
    exact .value single inside unsound

theorem refused_iff : body.Refused ↔ ¬ ∃ values, body.StandsFor values := by
  simp only [← enumerate_eq_ok_iff]
  cases body using Body.enumerate.fun_cases with
  | case1 left right => exact refused_span_iff
  | case2 items => exact refused_list_iff
  | case3 expression single => exact refused_value_iff single

end Enumerate

/-! ## Expansion -/

def Part.body? : Part → Option Body
  | .literal _ => none
  | .placeholder body => some body

def bodies (parts : List Part) : List Body :=
  parts.filterMap Part.body?

/-- The literals, with one value in the place of each placeholder. -/
def spelled : List Part → List Scalar → String
  | .literal content :: parts, values => content ++ spelled parts values
  | .placeholder _ :: parts, value :: values => value.shown ++ spelled parts values
  | _, _ => ""

/-- No number of names on the way is beyond the limit. -/
def CountsWithin (size : Nat) (values : List (List Scalar)) : Prop :=
  ∀ front, front <+: values → size * (front.map List.length).prod ≤ maxNames

section Expand

variable {size : Nat} {own : List Scalar} {values : List (List Scalar)} {names result : List String}
  {name start : String} {parts : List Part} {body : Body} {template : Template}

theorem countsWithin_nil : CountsWithin size [] ↔ size ≤ maxNames := by
  simp [CountsWithin]

theorem countsWithin_cons : CountsWithin size (own :: values) ↔
    size ≤ maxNames ∧ CountsWithin (size * own.length) values := by
  simp only [CountsWithin, List.prefix_cons_iff, forall_eq_or_imp]
  constructor
  · rintro ⟨first, rest⟩
    refine ⟨by simpa using first, fun front short => ?_⟩
    simpa [Nat.mul_assoc] using rest _ ⟨front, rfl, short⟩
  · rintro ⟨first, rest⟩
    refine ⟨by simpa using first, ?_⟩
    rintro _ ⟨front, rfl, short⟩
    simpa [Nat.mul_assoc] using rest front short

theorem length_combine : (combine names own).length = names.length * own.length := by
  simp [combine, List.length_flatMap, List.map_const', List.sum_replicate]

theorem extend_placeholder_eq_ok_iff : Part.extend names (.placeholder body) = .ok result ↔
    ∃ own, body.StandsFor own ∧ names.length * own.length ≤ maxNames ∧
      combine names own = result := by
  simp only [Part.extend, bind_eq_ok, enumerate_eq_ok_iff]
  refine exists_congr fun own => and_congr_right fun _ => ?_
  split
  next many =>
    refine iff_of_false nofun fun ⟨few, _⟩ => ?_
    exact absurd few (Nat.not_le_of_lt many)
  next few => rw [pure_eq_ok, and_iff_right (Nat.not_lt.mp few)]

def continued (names : List String) (parts : List Part) (values : List (List Scalar)) :
    List String :=
  names.flatMap fun name =>
    (choices values).map fun choice => name ++ spelled parts (choice.map Pick.value)

theorem continued_nil : continued names [] [] = names := by
  simp [continued, choices, spelled, List.flatMap_singleton']

theorem continued_literal {content : String} :
    continued (names.map (· ++ content)) parts values =
      continued names (.literal content :: parts) values := by
  simp [continued, spelled, List.flatMap_map, String.append_assoc]

theorem continued_placeholder : continued (combine names own) parts values =
    continued names (.placeholder body :: parts) (own :: values) := by
  conv_lhs => rw [← @map_value_picks own]
  simp [continued, combine, choices, spelled, List.flatMap_map, List.flatMap_assoc,
    List.map_flatMap, String.append_assoc, Function.comp_def]

theorem foldlM_extend_eq_ok_iff (few : names.length ≤ maxNames) :
    parts.foldlM Part.extend names = .ok result ↔
      ∃ values, List.Forall₂ Body.StandsFor (bodies parts) values ∧
        CountsWithin names.length values ∧ continued names parts values = result := by
  -- The names so far are never too many: a placeholder checks their number before they grow.
  induction parts generalizing names with
  | nil => simp [bodies, countsWithin_nil, few, continued_nil, pure_eq_ok]
  | cons part parts ih =>
      cases part with
      | literal content =>
          calc
            _ ↔ parts.foldlM Part.extend (names.map (· ++ content)) = .ok result := Iff.rfl
            _ ↔ _ := by
              rw [ih (by simpa using few)]
              simp only [List.length_map, continued_literal, bodies, List.filterMap_cons,
                Part.body?]
      | placeholder body =>
          rw [List.foldlM_cons, bind_eq_ok]
          simp only [extend_placeholder_eq_ok_iff]
          constructor
          · rintro ⟨_, ⟨own, stands, within, rfl⟩, rest⟩
            obtain ⟨values, others, counts, same⟩ := (ih (length_combine ▸ within)).mp rest
            rw [length_combine] at counts
            exact ⟨own :: values, .cons stands others, countsWithin_cons.mpr ⟨few, counts⟩,
              continued_placeholder.symm.trans same⟩
          · rintro ⟨_, stands, counts, same⟩
            obtain ⟨own, values, ownStands, others, rfl⟩ := List.forall₂_cons_left_iff.mp stands
            obtain ⟨-, counts⟩ := countsWithin_cons.mp counts
            have within : names.length * own.length ≤ maxNames := by
              simpa using counts [] List.nil_prefix
            refine ⟨_, ⟨own, ownStands, within, rfl⟩, (ih (length_combine ▸ within)).mpr ?_⟩
            exact ⟨values, others, length_combine ▸ counts, continued_placeholder.trans same⟩

theorem expand_eq_ok_iff : template.expand = .ok names ↔
    ∃ values, List.Forall₂ Body.StandsFor (bodies template.parts) values ∧
      CountsWithin 1 values ∧
      (choices values).map (fun choice => spelled template.parts (choice.map Pick.value)) =
        names := by
  refine (foldlM_extend_eq_ok_iff (by decide)).trans ?_
  simp [continued]

theorem standsFor_unique {bodies : List Body} {others : List (List Scalar)}
    (stand : List.Forall₂ Body.StandsFor bodies values)
    (standOthers : List.Forall₂ Body.StandsFor bodies others) : values = others := by
  have unique : Relator.RightUnique Body.StandsFor := by
    intro body own other stands standsOther
    rw [← enumerate_eq_ok_iff] at stands standsOther
    exact Except.ok.inj (stands.symm.trans standsOther)
  exact unique.forall₂ stand standOthers

theorem forall₂_prefix {bodies : List Body} {front : List (List Scalar)}
    (stand : List.Forall₂ Body.StandsFor bodies values) (early : front <+: values) :
    ∃ first, first <+: bodies ∧ List.Forall₂ Body.StandsFor first front := by
  rw [List.prefix_iff_eq_take.mp early]
  exact ⟨_, List.take_prefix _ _, List.forall₂_take _ stand⟩

theorem expand_fails_iff : (∃ fault, template.expand = .error fault) ↔
    (∃ body ∈ bodies template.parts, body.Refused) ∨ ∃ first values,
      first <+: bodies template.parts ∧ List.Forall₂ Body.StandsFor first values ∧
        maxNames < (values.map List.length).prod := by
  simp only [exists_error_iff, expand_eq_ok_iff, refused_iff]
  constructor
  · intro none
    by_cases all : ∃ values, List.Forall₂ Body.StandsFor (bodies template.parts) values
    · obtain ⟨values, stand⟩ := all
      have beyond : ¬ CountsWithin 1 values := fun counts => none ⟨_, values, stand, counts, rfl⟩
      obtain ⟨front, beyond⟩ := not_forall.mp beyond
      obtain ⟨early, beyond⟩ := Classical.not_imp.mp beyond
      obtain ⟨first, begins, firstStand⟩ := forall₂_prefix stand early
      exact .inr ⟨first, front, begins, firstStand, by simpa using beyond⟩
    · rw [exists_forall₂_iff] at all
      exact .inl (by simpa using all)
  · rintro (⟨body, member, refused⟩ | ⟨first, front, begins, firstStand, beyond⟩)
      ⟨_, values, stand, counts, -⟩
    · exact refused (exists_forall₂_iff.mp ⟨values, stand⟩ body member)
    · have early : front = values.take first.length := by
        refine standsFor_unique firstStand ?_
        nth_rewrite 1 [List.prefix_iff_eq_take.mp begins]
        exact List.forall₂_take _ stand
      have within := counts front (early ▸ List.take_prefix _ _)
      rw [Nat.one_mul] at within
      exact absurd beyond (Nat.not_lt.mpr within)

theorem length_expand (expanded : template.expand = .ok names) : names.length ≤ maxNames := by
  obtain ⟨values, -, counts, rfl⟩ := expand_eq_ok_iff.mp expanded
  rw [List.length_map, length_choices]
  simpa using counts values List.prefix_rfl

/-! ## One value each -/

theorem extend_of_evaluate {part : Part} (found : part.evaluate unbound = .ok name) :
    Part.extend [start] part = .ok [start ++ name] := by
  cases part with
  | literal content =>
      cases found
      rfl
  | placeholder body =>
      obtain ⟨value, evaluated, rfl⟩ := Part.evaluate_placeholder_eq_ok_iff.mp found
      have stands : body.StandsFor [value] := by
        cases body with
        | span first last => cases evaluated
        | single expression => exact .value evaluated
      exact extend_placeholder_eq_ok_iff.mpr ⟨[value], stands, by simp [maxNames], rfl⟩

theorem foldlM_extend_of_evaluateParts (found : evaluateParts unbound parts = .ok name) :
    parts.foldlM Part.extend [start] = .ok [start ++ name] := by
  induction parts generalizing start name with
  | nil =>
      cases found
      exact congrArg Except.ok (by simp [String.join_nil])
  | cons part parts ih =>
      rw [← List.singleton_append, evaluateParts_append_eq_ok_iff, evaluateParts_singleton] at found
      obtain ⟨first, own, rest, others, rfl⟩ := found
      rw [List.foldlM_cons, extend_of_evaluate own, ← String.append_assoc]
      exact ih others

theorem expand_of_evaluate (found : template.evaluate unbound = .ok name) :
    template.expand = .ok [name] := by
  have folded : template.expand = .ok ["" ++ name] := foldlM_extend_of_evaluateParts found
  rwa [String.empty_append] at folded

end Expand

/-- The names a template expands to are its literals with one value of every placeholder between
them, for every way to pick the values, in the order of the picks. They are never more than the
limit. Expansion fails exactly if a placeholder stands for no values or the first placeholders have
more than the limit of values to pick, and it finds one name wherever evaluation without names
does. -/
theorem names_are_ordered_products (template : Template) :
    (∀ names, template.expand = .ok names → names.length ≤ 100000 ∧ ∃ values choices,
      List.Forall₂ Body.StandsFor (bodies template.parts) values ∧
      OrderedProduct values choices ∧
      names = choices.map fun choice => spelled template.parts (choice.map Pick.value)) ∧
    ((∃ fault, template.expand = .error fault) ↔
      (∃ body ∈ bodies template.parts, body.Refused) ∨ ∃ first values,
        first <+: bodies template.parts ∧ List.Forall₂ Body.StandsFor first values ∧
          100000 < (values.map List.length).prod) ∧
    ∀ name, template.evaluate unbound = .ok name → template.expand = .ok [name] := by
  refine ⟨fun names expanded => ⟨length_expand expanded, ?_⟩, expand_fails_iff,
    fun name => expand_of_evaluate⟩
  obtain ⟨values, stand, -, rfl⟩ := expand_eq_ok_iff.mp expanded
  exact ⟨values, choices values, stand, orderedProduct_choices values, rfl⟩

/-- The template with the parts `t_`, `2..0` and `['a', 7]`. -/
private def spanAndList : Template where
  source := "t_$\x7b2..0\x7d$\x7b['a', 7]\x7d"
  parts := [.literal "t_", .placeholder (.span (.int 2) (.int 0)),
    .placeholder (.single (.list [.text "a", .int 7]))]

private def longSpan : Template where
  source := "$\x7b1..100001\x7d"
  parts := [.placeholder (.span (.int 1) (.int 100001))]

private def textSum : Template where
  source := "t_$\x7b3 + '4'\x7d"
  parts := [.literal "t_", .placeholder (.single (.binary .add (.int 3) (.text "4")))]

theorem spans_and_lists_are_ordered_products :
    (∃ values choices, List.Forall₂ Body.StandsFor (bodies spanAndList.parts) values ∧
      OrderedProduct values choices ∧ ["t_2a", "t_27", "t_1a", "t_17", "t_0a", "t_07"] =
        choices.map fun choice => spelled spanAndList.parts (choice.map Pick.value)) ∧
    (∃ fault, longSpan.expand = .error fault) ∧ textSum.expand = .ok ["t_7"] :=
  ⟨((names_are_ordered_products spanAndList).1 _ (by decide +kernel)).2,
    (names_are_ordered_products longSpan).2.1.mpr
      (.inl ⟨_, List.mem_singleton.mpr rfl, .long rfl rfl (by decide)⟩),
    (names_are_ordered_products textSum).2.2 "t_7" (by decide +kernel)⟩

end Sharding.Template
