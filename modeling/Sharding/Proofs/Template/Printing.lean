import Mathlib.Data.List.Chain
import Sharding.Proofs.Template.Grammar

/-!
# Written placeholders

The tokens that a body is written with, and the texts that hold them. A text that holds the tokens
of a body, with any blanks between them, is parsed as that body.
-/

set_option autoImplicit false

namespace Sharding.Template

/-! ## Tokens of trees -/

/-- How tight the trees of a level are. -/
def Level.depth : Level → Nat
  | .sum => 0
  | .product => 1
  | .unary => 2
  | .primary => 3

/-- The level of the right operand. The left one has the level of the operator. -/
def Operator.operand : Operator → Level
  | .add | .sub => .product
  | .mul | .div | .rem => .unary

def Expression.level : Expression → Level
  | .int _ | .text _ | .name _ | .list _ => .primary
  | .neg _ => .unary
  | .binary operator _ _ => operator.level

/-- The tokens of a tree in a place, in parentheses if the tree is looser than the place. -/
def enclosed (place own : Level) (tokens : List Token) : List Token :=
  if place.depth ≤ own.depth then tokens else .openParen :: (tokens ++ [.closeParen])

mutual

/-- The tokens that a tree is written with in a place. -/
def Expression.tokens (place : Level) : Expression → List Token
  | .int value => [.int value]
  | .text content => [.text content]
  | .name name => [.name name]
  | .neg operand => enclosed place .unary (.minus :: operand.tokens .unary)
  | .binary operator left right =>
    enclosed place operator.level
      (left.tokens operator.level ++ operator.token :: right.tokens operator.operand)
  | .list items => .openBracket :: ([Token.comma].intercalate (itemTokens items) ++ [.closeBracket])

def itemTokens : List Expression → List (List Token)
  | [] => []
  | item :: items => item.tokens .sum :: itemTokens items

end

def Body.tokens : Body → List Token
  | .single tree => tree.tokens .sum
  | .span first last => first.tokens .sum ++ .dots :: last.tokens .sum

theorem itemTokens_eq_map (items : List Expression) :
    itemTokens items = items.map (Expression.tokens .sum) := by
  induction items with
  | nil => rw [itemTokens, List.map_nil]
  | cons item items ih => rw [itemTokens, ih, List.map_cons]

/-! ## Parentheses -/

variable {token : Token} {tokens : List Token} {tree : Expression} {place level own : Level}

/-- What is derived at a level is derived at every looser one. -/
theorem Derives.loosen (within : place.depth ≤ level.depth) (derived : Derives level tokens tree) :
    Derives place tokens tree := by
  cases place <;> cases level <;> simp [Level.depth] at within
  · exact derived
  · exact .term derived
  · exact .term (.factor derived)
  · exact .term (.factor (.operand derived))
  · exact derived
  · exact .factor derived
  · exact .factor (.operand derived)
  · exact derived
  · exact .operand derived
  · exact derived

theorem Derives.anywhere (derived : Derives .primary tokens tree) : Derives place tokens tree :=
  derived.loosen (by cases place <;> decide)

/-- A tree that is looser than its place stands in parentheses, whoever writes it. -/
theorem Derives.openParen (derived : Derives place tokens tree) :
    place.depth ≤ tree.level.depth ∨ tokens.head? = some .openParen := by
  induction derived with
  | int | text | name | list => exact .inl (Nat.le_refl _)
  | group => exact .inr rfl
  | operand _ ih => exact ih.imp_left (Nat.le_trans (by decide))
  | negated => exact .inl (Nat.le_refl _)
  | factor _ ih => exact ih.imp_left (Nat.le_trans (by decide))
  | product multiplies => exact .inl (Nat.le_of_eq (by rw [Expression.level, multiplies]))
  | term _ ih => exact ih.imp_left (Nat.le_trans (by decide))
  | sum => exact .inl (Nat.zero_le _)

theorem derives_enclosed (derived : Derives own tokens tree) :
    Derives place (enclosed place own tokens) tree := by
  unfold enclosed
  split
  next within => exact derived.loosen within
  next =>
    have loose : Derives .sum tokens tree := derived.loosen (Nat.zero_le _)
    exact (Derives.group loose).anywhere

mutual

theorem derives_tokens (place : Level) : (tree : Expression) →
    Derives place (tree.tokens place) tree
  | .int value => by
      rw [Expression.tokens]
      exact Derives.int.anywhere
  | .text content => by
      rw [Expression.tokens]
      exact Derives.text.anywhere
  | .name name => by
      rw [Expression.tokens]
      exact Derives.name.anywhere
  | .neg operand => by
      rw [Expression.tokens]
      exact derives_enclosed (.negated (derives_tokens .unary operand))
  | .binary operator left right => by
      rw [Expression.tokens]
      have derivedLeft := derives_tokens operator.level left
      have derivedRight := derives_tokens operator.operand right
      refine derives_enclosed ?_
      cases operator with
      | add | sub => exact .sum rfl derivedLeft derivedRight
      | mul | div | rem => exact .product rfl derivedLeft derivedRight
  | .list items => by
      have derived : ∀ part ∈ items.map fun item => (item.tokens .sum, item),
          Derives .sum part.1 part.2 :=
        List.forall_mem_map.mpr (derives_itemTokens items)
      rw [Expression.tokens, itemTokens_eq_map]
      simpa [Function.comp_def] using (Derives.list derived).anywhere

theorem derives_itemTokens : (items : List Expression) →
    ∀ item ∈ items, Derives .sum (item.tokens .sum) item
  | [] => nofun
  | item :: items =>
      List.forall_mem_cons.mpr ⟨derives_tokens .sum item, derives_itemTokens items⟩

end

theorem derivesBody_tokens (body : Body) : DerivesBody body.tokens body := by
  cases body with
  | single tree => exact .single (derives_tokens .sum tree)
  | span first last => exact .span (derives_tokens .sum first) (derives_tokens .sum last)

/-! ## Tokens that derivations are made of -/

theorem mem_intercalate_comma {parts : List (List Token)}
    (member : token ∈ [Token.comma].intercalate parts) :
    token = .comma ∨ ∃ part ∈ parts, token ∈ part := by
  induction parts with
  | nil => cases member
  | cons part parts ih =>
      cases parts with
      | nil => exact .inr ⟨part, List.mem_cons_self, by simpa using member⟩
      | cons next parts =>
          rw [List.intercalate_cons_cons, List.append_assoc, List.mem_append, List.mem_append,
            List.mem_singleton] at member
          rcases member with first | comma | later
          · exact .inr ⟨part, List.mem_cons_self, first⟩
          · exact .inl comma
          · exact (ih later).imp_right fun ⟨part, among, inside⟩ =>
              ⟨part, List.mem_cons_of_mem _ among, inside⟩

theorem mem_intercalate_of_mem {part : List Token} {parts : List (List Token)}
    (among : part ∈ parts) (inside : token ∈ part) : token ∈ [Token.comma].intercalate parts := by
  induction parts with
  | nil => cases among
  | cons first parts ih =>
      cases parts with
      | nil =>
          cases List.mem_singleton.mp among
          simpa using inside
      | cons next parts =>
          rw [List.intercalate_cons_cons, List.append_assoc]
          rcases List.mem_cons.mp among with rfl | later
          · exact List.mem_append_left _ inside
          · exact List.mem_append_right _ (List.mem_append_right _ (ih later))

/-- Only bodies have dots. -/
theorem Derives.dots_notMem (derived : Derives level tokens tree) : .dots ∉ tokens := by
  induction derived with
  | int | text | name => simp
  | group _ ih => simpa using ih
  | list _ ih =>
      simp only [List.mem_cons, List.mem_append, List.not_mem_nil, reduceCtorEq, false_or, or_false]
      intro member
      rcases mem_intercalate_comma member with comma | ⟨part, among, inside⟩
      · cases comma
      · obtain ⟨item, itemMember, rfl⟩ := List.mem_map.mp among
        exact ih item itemMember inside
  | operand _ ih | factor _ ih | term _ ih => exact ih
  | negated _ ih => simpa using ih
  | @product operator _ _ _ _ _ _ _ leftIH rightIH | @sum operator _ _ _ _ _ _ _ leftIH rightIH =>
      have sign : Token.dots ≠ operator.token := by cases operator <;> decide
      simp [leftIH, rightIH, sign]

theorem isChain_cons {after : List Token} (sign : token.isWord = false)
    (right : after.IsChain Token.Apart) : (token :: after).IsChain Token.Apart :=
  List.isChain_cons.mpr ⟨fun _ _ => .inl sign, right⟩

theorem DerivesBody.count_dots {body : Body} (derived : DerivesBody tokens body) :
    tokens.count .dots ≤ 1 := by
  cases derived with
  | single derived => simp [List.count_eq_zero.mpr derived.dots_notMem]
  | span first last =>
      simp [List.count_eq_zero.mpr first.dots_notMem, List.count_eq_zero.mpr last.dots_notMem]

/-- Tokens on both sides of a sign are apart if they were on each side. -/
theorem isChain_append_cons {before after : List Token} (sign : token.isWord = false)
    (left : before.IsChain Token.Apart) (right : after.IsChain Token.Apart) :
    (before ++ token :: after).IsChain Token.Apart := by
  refine List.isChain_append.mpr ⟨left, isChain_cons sign right, ?_⟩
  rintro last _ next ⟨⟩
  exact .inr sign

theorem isChain_intercalate {parts : List (List Token)}
    (each : ∀ part ∈ parts, part.IsChain Token.Apart) :
    ([Token.comma].intercalate parts).IsChain Token.Apart := by
  induction parts with
  | nil => exact .nil
  | cons part parts ih =>
      obtain ⟨first, others⟩ := List.forall_mem_cons.mp each
      cases parts with
      | nil => simpa using first
      | cons next parts =>
          rw [List.intercalate_cons_cons, List.append_assoc]
          exact isChain_append_cons rfl first (ih others)

/-- In a derivation a sign stands between any two words. -/
theorem Derives.isChain (derived : Derives level tokens tree) : tokens.IsChain Token.Apart := by
  induction derived with
  | int | text | name => exact .singleton _
  | group _ ih => exact isChain_cons rfl (isChain_append_cons rfl ih .nil)
  | list _ ih =>
      have items := isChain_intercalate (List.forall_mem_map.mpr ih)
      exact isChain_cons rfl (isChain_append_cons rfl items .nil)
  | operand _ ih | factor _ ih | term _ ih => exact ih
  | negated _ ih => exact isChain_cons rfl ih
  | @product operator _ _ _ _ _ _ _ leftIH rightIH | @sum operator _ _ _ _ _ _ _ leftIH rightIH =>
      have sign : operator.token.isWord = false := by cases operator <;> rfl
      exact isChain_append_cons sign leftIH rightIH

theorem DerivesBody.isChain {body : Body} (derived : DerivesBody tokens body) :
    tokens.IsChain Token.Apart := by
  cases derived with
  | single derived => exact derived.isChain
  | span first last => exact isChain_append_cons rfl first.isChain last.isChain

/-! ## Texts -/

def Spellable (token : Token) : Prop := ∃ front, Spells front token

theorem Spellable.sign {c : Char} (sign : token.sign? = some c) : Spellable token :=
  ⟨[c], .sign sign⟩

theorem spellable_operator (operator : Operator) : Spellable operator.token := by
  cases operator <;> exact .sign rfl

theorem spellable_enclosed (each : ∀ token ∈ tokens, Spellable token) :
    ∀ token ∈ enclosed place own tokens, Spellable token := by
  unfold enclosed
  split
  · exact each
  · have opening : Spellable .openParen := .sign rfl
    have closing : Spellable .closeParen := .sign rfl
    simpa [opening, closing, or_imp, forall_and] using each

theorem spellable_binary {operator : Operator} {before after : List Token}
    (left : ∀ token ∈ before, Spellable token) (right : ∀ token ∈ after, Spellable token) :
    ∀ token ∈ before ++ operator.token :: after, Spellable token :=
  List.forall_mem_append.mpr
    ⟨left, List.forall_mem_cons.mpr ⟨spellable_operator operator, right⟩⟩

/-- What a tree is written with can be spelled if what it was derived from can. -/
theorem Derives.spellable (derived : Derives level tokens tree)
    (spelled : ∀ token ∈ tokens, Spellable token) (place : Level) :
    ∀ token ∈ tree.tokens place, Spellable token := by
  induction derived generalizing place with
  | int | text | name =>
      rw [Expression.tokens]
      exact spelled
  | group _ ih => exact ih (fun token member => spelled token (by simp [member])) place
  | @list items _ ih =>
      rw [Expression.tokens, itemTokens_eq_map]
      have opening : Spellable .openBracket := .sign rfl
      have closing : Spellable .closeBracket := .sign rfl
      refine List.forall_mem_cons.mpr ⟨opening, List.forall_mem_append.mpr
        ⟨fun token member => ?_, List.forall_mem_singleton.mpr closing⟩⟩
      rcases mem_intercalate_comma member with rfl | ⟨part, among, inside⟩
      · exact .sign rfl
      · simp only [List.map_map, List.mem_map] at among
        obtain ⟨item, itemMember, rfl⟩ := among
        refine ih item itemMember (fun token member => spelled token ?_) .sum token inside
        have among := mem_intercalate_of_mem (List.mem_map_of_mem itemMember) member
        exact List.mem_cons_of_mem _ (List.mem_append_left _ among)
  | operand _ ih | factor _ ih | term _ ih => exact ih spelled place
  | negated _ ih =>
      rw [Expression.tokens]
      have minus : Spellable .minus := .sign rfl
      have operand := ih (fun token member => spelled token (List.mem_cons_of_mem _ member)) .unary
      exact spellable_enclosed (List.forall_mem_cons.mpr ⟨minus, operand⟩)
  | @product operator _ _ _ _ _ _ _ leftIH rightIH | @sum operator _ _ _ _ _ _ _ leftIH rightIH =>
      rw [Expression.tokens]
      have left := leftIH (fun token member => spelled token (List.mem_append_left _ member))
      have right := rightIH fun token member =>
        spelled token (List.mem_append_right _ (List.mem_cons_of_mem _ member))
      exact spellable_enclosed (spellable_binary (left _) (right _))

theorem DerivesBody.spellable {body : Body} (derived : DerivesBody tokens body)
    (spelled : ∀ token ∈ tokens, Spellable token) : ∀ token ∈ body.tokens, Spellable token := by
  cases derived with
  | single derived => exact derived.spellable spelled .sum
  | span first last =>
      obtain ⟨before, later⟩ := List.forall_mem_append.mp spelled
      obtain ⟨dots, after⟩ := List.forall_mem_cons.mp later
      exact List.forall_mem_append.mpr ⟨first.spellable before .sum,
        List.forall_mem_cons.mpr ⟨dots, last.spellable after .sum⟩⟩

theorem Spaced.spellable {chars : List Char} (spaced : Spaced chars tokens) :
    ∀ token ∈ tokens, Spellable token := by
  induction spaced with
  | nil => nofun
  | blank _ _ ih => exact ih
  | token spelled _ ih => exact List.forall_mem_cons.mpr ⟨⟨_, spelled⟩, ih⟩

theorem exists_written_cons (spelled : ∀ token ∈ tokens, Spellable token) :
    ∃ chars, Written (' ' :: chars) tokens := by
  induction tokens with
  | nil => exact ⟨[], .blank (by decide) .nil⟩
  | cons token tokens ih =>
      obtain ⟨⟨front, first⟩, others⟩ := List.forall_mem_cons.mp spelled
      obtain ⟨chars, written⟩ := ih others
      refine ⟨front ++ ' ' :: chars, .blank (by decide) (.token first (fun _ _ => ?_) written)⟩
      exact .inr ⟨' ', rfl, by decide⟩

theorem exists_spaced (spelled : ∀ token ∈ tokens, Spellable token) :
    ∃ chars, Spaced chars tokens := by
  obtain ⟨chars, written⟩ := exists_written_cons spelled
  exact ⟨_, written.lexes.spaced⟩

namespace Body

variable {chars : List Char} {body : Body}

theorem parse_written (spaced : Spaced chars body.tokens) : parse chars = .ok body :=
  have derived := derivesBody_tokens body
  Body.parse_eq_ok_iff.mpr ⟨body.tokens, spaced.lexes derived.isChain, derived⟩

theorem exists_written (parsed : parse chars = .ok body) :
    ∃ written, Spaced written body.tokens := by
  obtain ⟨tokens, lexed, derived⟩ := Body.parse_eq_ok_iff.mp parsed
  exact exists_spaced (derived.spellable lexed.spaced.spellable)

end Body

/-- Parsing accepts exactly what the grammar derives from the tokens of the text, with one tree at
most, and dots only between the bounds of a span. A body that is written with the parentheses that
every derivation has, any blanks between tokens and any spelling of them is parsed as that body,
and every body that parsing finds can be written so. -/
theorem placeholders_follow_grammar :
    (∀ (chars : List Char) (body : Body), Body.parse chars = .ok body ↔
      ∃ tokens, Lexes chars tokens ∧ DerivesBody tokens body) ∧
    (∀ (chars : List Char) (tokens others : List Token),
      Lexes chars tokens → Lexes chars others → tokens = others) ∧
    (∀ (tokens : List Token) (body other : Body),
      DerivesBody tokens body → DerivesBody tokens other → body = other) ∧
    (∀ (tokens : List Token) (body : Body), DerivesBody tokens body → tokens.count .dots ≤ 1) ∧
    (∀ (level : Level) (tokens : List Token) (tree : Expression), Derives level tokens tree →
      .dots ∉ tokens ∧ (level.depth ≤ tree.level.depth ∨ tokens.head? = some .openParen)) ∧
    (∀ (body : Body) (written : List Char), Spaced written body.tokens →
      Body.parse written = .ok body) ∧
    ∀ (chars : List Char) (body : Body), Body.parse chars = .ok body →
      ∃ written, Spaced written body.tokens :=
  ⟨fun _ _ => Body.parse_eq_ok_iff, fun _ _ _ => Lexes.unique, fun _ _ _ => DerivesBody.unique,
    fun _ _ => DerivesBody.count_dots,
    fun _ _ _ derived => ⟨derived.dots_notMem, derived.openParen⟩,
    fun _ _ => Body.parse_written, fun _ _ => Body.exists_written⟩

private def negatedSum : Expression := .binary .add (.name "a") (.text "7")

/-- A difference of a difference, and a product whose first factor is the negation of a sum. -/
private def stepBody : Body :=
  .span (.binary .sub (.binary .sub (.name "a") (.int 1)) (.int 2))
    (.binary .mul (.neg negatedSum) (.int 3))

private def stepText : List Char := "a -1- 2..-(a+'7')\t*3".toList

private def stepTokens : List Token :=
  [.name "a", .minus, .int 1, .minus, .int 2, .dots, .minus, .openParen, .name "a", .plus,
    .text "7", .closeParen, .star, .int 3]

private theorem stepText_lexes : Lexes stepText stepTokens :=
  tokenize_eq_ok_iff.mp (by decide +kernel)

private theorem stepText_holds : Lexes stepText stepBody.tokens :=
  tokenize_eq_ok_iff.mp (by decide +kernel)

theorem step_follows_grammar :
    (∃ tokens, Lexes stepText tokens ∧ DerivesBody tokens stepBody) ∧
      stepBody.tokens = stepTokens ∧ stepTokens.count .dots ≤ 1 ∧
      (negatedSum.tokens .unary).head? = some .openParen ∧
      Body.parse stepText = .ok stepBody ∧ ∃ written, Spaced written stepBody.tokens := by
  obtain ⟨accepts, oneReading, -, fewDots, looser, writes, isWritten⟩ := placeholders_follow_grammar
  have parsed := writes stepBody stepText stepText_holds.spaced
  have sameTokens := oneReading stepText _ _ stepText_holds stepText_lexes
  have derived := derivesBody_tokens stepBody
  have inParentheses := (looser .unary _ negatedSum (derives_tokens .unary negatedSum)).2
  exact ⟨(accepts stepText stepBody).mp parsed, sameTokens,
    fewDots stepTokens stepBody (sameTokens ▸ derived), inParentheses.resolve_left (by decide),
    parsed, isWritten stepText stepBody parsed⟩

end Sharding.Template
