import Sharding.Template.Expression

/-!
# Grammar of placeholders

A body is a sum, or a span between two sums. Sums and products associate to the left, a minus
sign binds tighter than a product, and parentheses only group:

    body    = sum [ ".." sum ]
    sum     = product { ("+" | "-") product }
    product = unary { ("*" | "/" | "%") unary }
    unary   = "-" unary | primary
    primary = int | text | name | "(" sum ")" | "[" [ sum { "," sum } ] "]"

A parser answers with what it found at the front of the tokens and the tokens left, fewer than it
was given.
-/

set_option autoImplicit false

namespace Sharding.Template

inductive GrammarFault where
  /-- A closing token that is missing, and what stands in its place. -/
  | wanted (token : Token) (found : Option Token)
  /-- A token after the end of the body. -/
  | trailing (token : Token)
  /-- What stands where a value should start. -/
  | unexpected (found : Option Token)
  deriving DecidableEq, Repr

def GrammarFault.message : GrammarFault → String
  | .wanted token found =>
    String.join ["expected ", token.shown, ", found ", Token.shownFront found]
  | .trailing token => String.join ["unexpected trailing ", token.shown]
  | .unexpected found => String.join ["unexpected ", Token.shownFront found]

def Token.additive? : Token → Option Operator
  | .plus => some .add
  | .minus => some .sub
  | _ => none

def Token.multiplicative? : Token → Option Operator
  | .star => some .mul
  | .slash => some .div
  | .percent => some .rem
  | _ => none

inductive Opening where
  /-- The token is the expression. -/
  | whole (expression : Expression)
  | minus
  | group
  | list
  deriving Repr

/-- What a token opens, if a unary expression can start with it. -/
def Token.opening? : Token → Option Opening
  | .int value => some (.whole (.int value))
  | .text content => some (.whole (.text content))
  | .name word => some (.whole (.name word))
  | .minus => some .minus
  | .openParen => some .group
  | .openBracket => some .list
  | .plus | .star | .slash | .percent | .closeParen | .closeBracket | .comma | .dots => none

/-- A value found at the front of `tokens` and the tokens left, fewer than before. -/
abbrev Parsed (α : Type) (tokens : List Token) : Type :=
  Except GrammarFault { result : α × List Token // result.2.length < tokens.length }

abbrev Continued (α : Type) (tokens : List Token) : Type :=
  Except GrammarFault { result : α × List Token // result.2.length ≤ tokens.length }

def after? (token : Token) (tokens : List Token) :
    Option { rest : List Token // rest.length < tokens.length } :=
  match tokens with
  | [] => none
  | found :: rest => if found = token then some ⟨rest, by simp⟩ else none

def expect (token : Token) (tokens : List Token) :
    Except GrammarFault { rest : List Token // rest.length < tokens.length } :=
  match after? token tokens with
  | some rest => .ok rest
  | none => .error (.wanted token tokens.head?)

/-- Operators with their right operands, applied to a left operand one after the other. -/
def applyAll (left : Expression) (steps : List (Operator × Expression)) : Expression :=
  steps.foldl (fun left step => .binary step.1 left step.2) left

mutual

def parseSum (tokens : List Token) : Parsed Expression tokens :=
  match parseProduct tokens with
  | .error fault => .error fault
  | .ok ⟨(left, rest), shorter⟩ =>
    match parseTerms rest with
    | .error fault => .error fault
    | .ok ⟨(steps, rest'), fewer⟩ =>
      .ok ⟨(applyAll left steps, rest'), by simp only at shorter fewer ⊢; omega⟩
termination_by 4 * tokens.length + 3
decreasing_by
  · omega
  · simp only at shorter; omega

def parseTerms (tokens : List Token) : Continued (List (Operator × Expression)) tokens :=
  match tokens with
  | [] => .ok ⟨([], []), Nat.le_refl _⟩
  | token :: rest =>
    match token.additive? with
    | none => .ok ⟨([], token :: rest), Nat.le_refl _⟩
    | some operator =>
      match parseProduct rest with
      | .error fault => .error fault
      | .ok ⟨(right, rest'), shorter⟩ =>
        match parseTerms rest' with
        | .error fault => .error fault
        | .ok ⟨(steps, rest''), fewer⟩ =>
          .ok ⟨((operator, right) :: steps, rest''), by
            simp only [List.length_cons] at shorter fewer ⊢; omega⟩
termination_by 4 * tokens.length
decreasing_by
  · simp only [List.length_cons]; omega
  · simp only [List.length_cons] at shorter ⊢; omega

def parseProduct (tokens : List Token) : Parsed Expression tokens :=
  match parseUnary tokens with
  | .error fault => .error fault
  | .ok ⟨(left, rest), shorter⟩ =>
    match parseFactors rest with
    | .error fault => .error fault
    | .ok ⟨(steps, rest'), fewer⟩ =>
      .ok ⟨(applyAll left steps, rest'), by simp only at shorter fewer ⊢; omega⟩
termination_by 4 * tokens.length + 2
decreasing_by
  · omega
  · simp only at shorter; omega

/-- The operators and unary expressions that go on with a product. -/
def parseFactors (tokens : List Token) : Continued (List (Operator × Expression)) tokens :=
  match tokens with
  | [] => .ok ⟨([], []), Nat.le_refl _⟩
  | token :: rest =>
    match token.multiplicative? with
    | none => .ok ⟨([], token :: rest), Nat.le_refl _⟩
    | some operator =>
      match parseUnary rest with
      | .error fault => .error fault
      | .ok ⟨(right, rest'), shorter⟩ =>
        match parseFactors rest' with
        | .error fault => .error fault
        | .ok ⟨(steps, rest''), fewer⟩ =>
          .ok ⟨((operator, right) :: steps, rest''), by
            simp only [List.length_cons] at shorter fewer ⊢; omega⟩
termination_by 4 * tokens.length
decreasing_by
  · simp only [List.length_cons]; omega
  · simp only [List.length_cons] at shorter ⊢; omega

def parseUnary (tokens : List Token) : Parsed Expression tokens :=
  match tokens with
  | [] => .error (.unexpected none)
  | token :: rest =>
    match token.opening? with
    | none => .error (.unexpected (some token))
    | some (.whole expression) => .ok ⟨(expression, rest), by simp⟩
    | some .minus =>
      match parseUnary rest with
      | .error fault => .error fault
      | .ok ⟨(operand, rest'), shorter⟩ =>
        .ok ⟨(.neg operand, rest'), by simp only [List.length_cons] at shorter ⊢; omega⟩
    | some .group =>
      match parseSum rest with
      | .error fault => .error fault
      | .ok ⟨(inner, rest'), shorter⟩ =>
        match expect .closeParen rest' with
        | .error fault => .error fault
        | .ok ⟨left, shorter'⟩ =>
          .ok ⟨(inner, left), by simp only [List.length_cons] at shorter ⊢; omega⟩
    | some .list =>
      match after? .closeBracket rest with
      | some ⟨left, shorter⟩ => .ok ⟨(.list [], left), by simp only [List.length_cons]; omega⟩
      | none =>
        match parseItems rest with
        | .error fault => .error fault
        | .ok ⟨(items, rest'), shorter⟩ =>
          match expect .closeBracket rest' with
          | .error fault => .error fault
          | .ok ⟨left, shorter'⟩ =>
            .ok ⟨(.list items, left), by simp only [List.length_cons] at shorter ⊢; omega⟩
termination_by 4 * tokens.length + 1
decreasing_by all_goals simp only [List.length_cons]; omega

def parseItems (tokens : List Token) : Parsed (List Expression) tokens :=
  match parseSum tokens with
  | .error fault => .error fault
  | .ok ⟨(item, rest), shorter⟩ =>
    match after? .comma rest with
    | none => .ok ⟨([item], rest), shorter⟩
    | some ⟨left, shorter'⟩ =>
      match parseItems left with
      | .error fault => .error fault
      | .ok ⟨(items, left'), shorter''⟩ =>
        .ok ⟨(item :: items, left'), by simp only at shorter shorter'' ⊢; omega⟩
termination_by 4 * tokens.length + 4
decreasing_by
  · omega
  · simp only at shorter; omega

end

def finish (body : Body) : List Token → Except GrammarFault Body
  | [] => .ok body
  | token :: _ => .error (.trailing token)

def parseBody (tokens : List Token) : Except GrammarFault Body :=
  match parseSum tokens with
  | .error fault => .error fault
  | .ok ⟨(first, rest), _⟩ =>
    match after? .dots rest with
    | none => finish (.single first) rest
    | some ⟨left, _⟩ =>
      match parseSum left with
      | .error fault => .error fault
      | .ok ⟨(last, left'), _⟩ => finish (.span first last) left'

end Sharding.Template
