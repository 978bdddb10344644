import Sharding.Proofs.Template.Arithmetic
import Sharding.Proofs.Template.Layout
import Sharding.Proofs.Text.Margins

/-!
# Names in templates

The names in the placeholders of a template are the names that its text mentions, whatever blanks
stand around it. What a template evaluates to depends on nothing but the values of its names.
-/

set_option autoImplicit false

namespace Sharding.Template

open Text (isBlank trimChars)

mutual

def Expression.names : Expression → List String
  | .int _ | .text _ => []
  | .name word => [word]
  | .neg operand => operand.names
  | .binary _ left right => left.names ++ right.names
  | .list items => itemNames items

def itemNames : List Expression → List String
  | [] => []
  | item :: items => item.names ++ itemNames items

end

def Body.names : Body → List String
  | .single expression => expression.names
  | .span first last => first.names ++ last.names

def Part.names : Part → List String
  | .literal _ => []
  | .placeholder body => body.names

def names (template : Template) : List String :=
  template.parts.flatMap Part.names

/-- The word is a name in a placeholder of the text. -/
def Mentions (text word : String) : Prop :=
  ∃ chars tokens, Piece.body chars ∈ cut false [] text.toList ∧ Lexes chars tokens ∧
    Token.name word ∈ tokens

variable {word : String} {level : Level} {token : Token} {tokens : List Token}
  {tree expression : Expression} {items : List Expression} {body : Body} {source : String}
  {template : Template}

/-! ## Names in texts -/

theorem mem_itemNames_iff : word ∈ itemNames items ↔ ∃ item ∈ items, word ∈ item.names := by
  induction items with
  | nil => simp [itemNames]
  | cons item items ih => simp [itemNames, ih]

theorem mem_intercalate_iff {parts : List (List Token)} (other : token ≠ .comma) :
    token ∈ [Token.comma].intercalate parts ↔ ∃ part ∈ parts, token ∈ part := by
  induction parts with
  | nil => simp
  | cons part parts ih =>
      cases parts with
      | nil => simp
      | cons next parts => simp [List.intercalate_cons_cons, ih, other]

/-- The names of a tree are the names among the tokens that it is derived from. -/
theorem Derives.mem_names_iff (derived : Derives level tokens tree) :
    word ∈ tree.names ↔ Token.name word ∈ tokens := by
  induction derived with
  | int | text | name => simp [Expression.names]
  | group _ ih => simp [ih]
  | @list items _ ih =>
      have each : (∃ item ∈ items, word ∈ item.2.names) ↔ ∃ item ∈ items, .name word ∈ item.1 :=
        exists_congr fun item => and_congr_right fun member => ih item member
      have noComma : Token.name word ≠ .comma := nofun
      have listed : Token.name word ∈ [Token.comma].intercalate (items.map Prod.fst) ↔
          ∃ item ∈ items, .name word ∈ item.1 := by
        simp only [mem_intercalate_iff noComma, List.mem_map, exists_exists_and_eq_and]
      rw [Expression.names, mem_itemNames_iff]
      simpa only [List.mem_map, exists_exists_and_eq_and, List.mem_cons, List.mem_append, listed,
        reduceCtorEq, false_or, List.not_mem_nil, or_false] using each
  | operand _ ih | factor _ ih | term _ ih => exact ih
  | negated _ ih => simp [Expression.names, ih]
  | @product operator _ _ _ _ _ _ _ leftIH rightIH | @sum operator _ _ _ _ _ _ _ leftIH rightIH =>
      have sign : Token.name word ≠ operator.token := by cases operator <;> nofun
      simp [Expression.names, leftIH, rightIH, sign]

theorem DerivesBody.mem_names_iff (derived : DerivesBody tokens body) :
    word ∈ body.names ↔ Token.name word ∈ tokens := by
  cases derived with
  | single derived => exact derived.mem_names_iff
  | span derivedFirst derivedLast =>
      simp [Body.names, derivedFirst.mem_names_iff, derivedLast.mem_names_iff]

theorem Body.mem_names_iff {chars : List Char} (parsed : parse chars = .ok body) :
    word ∈ body.names ↔ ∃ tokens, Lexes chars tokens ∧ Token.name word ∈ tokens := by
  obtain ⟨tokens, lexed, derived⟩ := Body.parse_eq_ok_iff.mp parsed
  rw [derived.mem_names_iff]
  constructor
  · exact fun member => ⟨tokens, lexed, member⟩
  · rintro ⟨others, lexedOther, member⟩
    exact lexed.unique lexedOther ▸ member

/-! ## Names in layouts -/

variable {passages : List Passage} {last chars : List Char}

theorem names_laidOut : (passages.flatMap Passage.parts ++ Part.literals last).flatMap Part.names =
    passages.flatMap fun passage => passage.body.names := by
  have literals (chars : List Char) : (Part.literals chars).flatMap Part.names = [] := by
    unfold Part.literals
    split <;> rfl
  simp [List.flatMap_assoc, Passage.parts, literals, Part.names]

theorem body_mem_literals : Piece.body chars ∉ Piece.literals last := by
  unfold Piece.literals
  split <;> simp

theorem body_mem_cut_iff (plain : IsPlain last) :
    Piece.body chars ∈ cut false [] (laidOut passages last) ↔
      ∃ passage ∈ passages, passage.content = chars := by
  simp [cut_laidOut, cut_last plain, body_mem_literals, Passage.pieces, eq_comm]

/-- The names of a template are those that its text mentions. -/
theorem mem_names_iff (parsed : parse source = .ok template) :
    word ∈ template.names ↔ Mentions source word := by
  obtain ⟨passages, last, plain, layout, rfl⟩ := parse_eq_ok_iff.mp parsed
  rw [names, names_laidOut, List.mem_flatMap, Mentions]
  constructor
  · rintro ⟨passage, member, named⟩
    obtain ⟨tokens, lexed, named⟩ := (Body.mem_names_iff passage.parsed).mp named
    exact ⟨_, tokens, layout ▸ (body_mem_cut_iff plain).mpr ⟨passage, member, rfl⟩, lexed, named⟩
  · rintro ⟨_, tokens, inside, lexed, named⟩
    obtain ⟨passage, member, rfl⟩ := (body_mem_cut_iff plain).mp (layout ▸ inside)
    exact ⟨passage, member, (Body.mem_names_iff passage.parsed).mpr ⟨tokens, lexed, named⟩⟩

/-! ## Blank margins -/

/-- The passage without the blanks in front of it. -/
def Passage.trimmed (passage : Passage) : Passage :=
  { passage with
    literal := passage.literal.dropWhile isBlank
    plain := passage.plain.of_infix (List.dropWhile_suffix isBlank).isInfix }

/-- The first placeholder, up to the closing brace of the last one. -/
def Passage.onwards (passage : Passage) (passages : List Passage) : List Char :=
  passage.opener.chars ++ passage.content ++ '\x7d' :: passages.flatMap Passage.written

theorem laidOut_cons (passage : Passage) (passages : List Passage) :
    laidOut (passage :: passages) last = passage.literal ++ passage.onwards passages ++ last := by
  simp [laidOut, Passage.written, Passage.onwards]

theorem Passage.head?_onwards (passage : Passage) (passages : List Passage) :
    (passage.onwards passages).head? = some '$' := by
  obtain ⟨signs, opens, -⟩ := passage.opener.exists_signs
  simp [onwards, opens]

theorem Passage.getLast?_onwards (passage : Passage) (passages : List Passage) :
    (passage.onwards passages).getLast? = some '\x7d' := by
  rcases List.eq_nil_or_concat passages with rfl | ⟨before, final, rfl⟩
  · simp [onwards]
  · refine List.getLast?_eq_some_iff.mpr ⟨passage.onwards before ++
      (final.literal ++ final.opener.chars ++ final.content), ?_⟩
    simp [onwards, written]

/-- Blank margins of a text stand in the first and the last literal, so they make no difference to
whether it is read nor to its names. -/
theorem exists_parse_trim (parsed : parse source = .ok template) :
    ∃ trimmed, parse (Text.trim source) = .ok trimmed ∧ trimmed.names = template.names := by
  obtain ⟨passages, last, plain, layout, rfl⟩ := parse_eq_ok_iff.mp parsed
  have trimmed : (Text.trim source).toList = trimChars (laidOut passages last) := by
    rw [Text.trim, String.toList_ofList, layout]
  cases passages with
  | nil =>
      have whole : (Text.trim source).toList = laidOut [] (trimChars last) := trimmed
      exact ⟨_, parse_of_laidOut (plain.of_infix Text.trimChars_infix) whole,
        names_laidOut.trans names_laidOut.symm⟩
  | cons passage passages =>
      have whole : (Text.trim source).toList = laidOut (passage.trimmed :: passages)
          (last.reverse.dropWhile isBlank).reverse := by
        rw [trimmed, laidOut_cons, laidOut_cons, Text.trimChars_around (passage.head?_onwards _)
          (by decide) (passage.getLast?_onwards _) (by decide)]
        rfl
      refine ⟨_, parse_of_laidOut (plain.of_infix Text.dropTrailing_prefix.isInfix) whole, ?_⟩
      rw [names, names, names_laidOut, names_laidOut]
      rfl

/-! ## Values of names -/

variable {first second : Bindings}

theorem Expression.eval_of_names (same : ∀ word ∈ expression.names, first word = second word) :
    expression.eval first = expression.eval second := by
  induction expression using operand_induction with
  | int value | text content | list items => rfl
  | name word => rw [eval, eval, same word (List.mem_singleton.mpr rfl)]
  | neg operand ih => rw [eval, eval, ih same]
  | binary operator left right leftIH rightIH =>
      obtain ⟨inLeft, inRight⟩ := List.forall_mem_append.mp same
      rw [eval, eval, leftIH inLeft, rightIH inRight]

theorem Part.evaluate_of_names {part : Part}
    (same : ∀ word ∈ part.names, first word = second word) :
    part.evaluate first = part.evaluate second := by
  cases part with
  | literal content => rfl
  | placeholder body =>
      cases body with
      | span low high => rfl
      | single expression =>
          rw [evaluate, evaluate, Body.eval, Body.eval, Expression.eval_of_names same]

/-- Bindings with the same values for the names of a template make no difference to it. -/
theorem evaluate_of_names (same : ∀ word ∈ template.names, first word = second word) :
    template.evaluate first = template.evaluate second := by
  rw [evaluate, evaluate, mapM_congr fun part member => Part.evaluate_of_names fun word named =>
    same word (List.mem_flatMap.mpr ⟨part, member, named⟩)]

end Sharding.Template
