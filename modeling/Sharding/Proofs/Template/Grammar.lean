import Sharding.Proofs.Template.Spelling
import Sharding.Template.Basic

/-!
# The grammar of placeholders

The grammar as derivations of trees from token lists, apart from the parser. The parser finds a
tree exactly if the grammar derives it, and a tree that is written down with the parentheses that
the grammar asks for is found again.
-/

set_option autoImplicit false

namespace Sharding.Template

/-! ## Derivations -/

inductive Level where
  | sum
  | product
  | unary
  | primary
  deriving DecidableEq, Repr

def Operator.token : Operator → Token
  | .add => .plus
  | .sub => .minus
  | .mul => .star
  | .div => .slash
  | .rem => .percent

def Operator.level : Operator → Level
  | .add | .sub => .sum
  | .mul | .div | .rem => .product

/-- The grammar derives the tree from the tokens at a level:

    sum     = product | sum ("+" | "-") product
    product = unary | product ("*" | "/" | "%") unary
    unary   = primary | "-" unary
    primary = int | text | name | "(" sum ")" | "[" [ sum { "," sum } ] "]" -/
inductive Derives : Level → List Token → Expression → Prop where
  | int {value} : Derives .primary [.int value] (.int value)
  | text {content} : Derives .primary [.text content] (.text content)
  | name {name} : Derives .primary [.name name] (.name name)
  | group {tokens inner} : Derives .sum tokens inner →
      Derives .primary (.openParen :: (tokens ++ [.closeParen])) inner
  | list {items : List (List Token × Expression)} :
      (∀ item ∈ items, Derives .sum item.1 item.2) →
      Derives .primary
        (.openBracket :: ([Token.comma].intercalate (items.map Prod.fst) ++ [.closeBracket]))
        (.list (items.map Prod.snd))
  | operand {tokens tree} : Derives .primary tokens tree → Derives .unary tokens tree
  | negated {tokens tree} : Derives .unary tokens tree →
      Derives .unary (.minus :: tokens) (.neg tree)
  | factor {tokens tree} : Derives .unary tokens tree → Derives .product tokens tree
  | product {operator : Operator} {before after left right} : operator.level = .product →
      Derives .product before left → Derives .unary after right →
      Derives .product (before ++ operator.token :: after) (.binary operator left right)
  | term {tokens tree} : Derives .product tokens tree → Derives .sum tokens tree
  | sum {operator : Operator} {before after left right} : operator.level = .sum →
      Derives .sum before left → Derives .product after right →
      Derives .sum (before ++ operator.token :: after) (.binary operator left right)

/-- The grammar derives the body from the tokens: `body = sum [ ".." sum ]`. -/
inductive DerivesBody : List Token → Body → Prop where
  | single {tokens tree} : Derives .sum tokens tree → DerivesBody tokens (.single tree)
  | span {before after first last} : Derives .sum before first → Derives .sum after last →
      DerivesBody (before ++ .dots :: after) (.span first last)

/-! ## What each parser finds -/

section Gives

variable {α : Type} {fewer : α × List Token → Prop}

/-- A parser finds the value and leaves the rest. -/
def Gives (parsed : Except GrammarFault { result : α × List Token // fewer result }) (value : α)
    (rest : List Token) : Prop :=
  ∃ holds, parsed = .ok ⟨(value, rest), holds⟩

variable {parsed : Except GrammarFault { result : α × List Token // fewer result }} {value : α}
  {rest : List Token}

theorem Gives.holds (gives : Gives parsed value rest) : fewer (value, rest) :=
  gives.elim fun holds _ => holds

end Gives

variable {token : Token} {tokens rest : List Token} {tree : Expression} {trees : List Expression}
  {steps : List (Operator × Expression)}

theorem after?_eq_some_iff {left : List Token} {shorter : left.length < tokens.length} :
    after? token tokens = some ⟨left, shorter⟩ ↔ tokens = token :: left := by
  cases tokens with
  | nil => simp [after?]
  | cons found rest =>
      rw [after?]
      split
      next same => simp [same]
      next different => simp [different]

theorem after?_self : after? token (token :: rest) = some ⟨rest, Nat.lt_succ_self _⟩ :=
  after?_eq_some_iff.mpr rfl

theorem after?_eq_none_iff : after? token tokens = none ↔ ∀ left, tokens ≠ token :: left := by
  cases found : after? token tokens with
  | some left => exact ⟨nofun, fun none => absurd (after?_eq_some_iff.mp found) (none _)⟩
  | none =>
      refine ⟨fun _ left same => ?_, fun _ => rfl⟩
      subst same
      rw [after?_self] at found
      cases found

theorem expect_eq_ok_iff {left : List Token} {shorter : left.length < tokens.length} :
    expect token tokens = .ok ⟨left, shorter⟩ ↔ tokens = token :: left := by
  rw [← @after?_eq_some_iff _ _ _ shorter, expect]
  cases after? token tokens <;> simp

theorem expect_self : expect token (token :: rest) = .ok ⟨rest, Nat.lt_succ_self _⟩ :=
  expect_eq_ok_iff.mpr rfl

/-! ### Chains

Sums and products are chains of operands with operators between them, at two levels. -/

section Chains

variable (operator? : Token → Option Operator)
  (operand : (tokens : List Token) → Parsed Expression tokens)
  (more : (tokens : List Token) → Continued (List (Operator × Expression)) tokens)

/-- A left operand and the steps after it, applied to it. -/
def chain (tokens : List Token) : Parsed Expression tokens := do
  let left ← operand tokens
  let steps ← more left.1.2
  return ⟨(applyAll left.1.1 steps.1.1, steps.1.2), Nat.lt_of_le_of_lt steps.2 left.2⟩

def noSteps (tokens : List Token) : Continued (List (Operator × Expression)) tokens :=
  .ok ⟨([], tokens), Nat.le_refl _⟩

/-- The steps in front of the tokens: none, or an operator with its operand and the steps after. -/
def chainSteps : (tokens : List Token) → Continued (List (Operator × Expression)) tokens
  | [] => noSteps []
  | token :: others => (operator? token).elim (noSteps (token :: others)) fun operator => do
    let right ← operand others
    let later ← more right.1.2
    return ⟨((operator, right.1.1) :: later.1.1, later.1.2),
      Nat.le_succ_of_le (Nat.le_trans later.2 (Nat.le_of_lt right.2))⟩

inductive ChainGives : List Token → Expression → List Token → Prop where
  | intro {tokens rest' rest : List Token} {left : Expression}
      {steps : List (Operator × Expression)} : Gives (operand tokens) left rest' →
      Gives (more rest') steps rest → ChainGives tokens (applyAll left steps) rest

inductive StepsGive : List Token → List (Operator × Expression) → List Token → Prop where
  | stop {tokens : List Token} : (∀ token ∈ tokens.head?, operator? token = none) →
      StepsGive tokens [] tokens
  | step {token : Token} {operator : Operator} {others rest' rest : List Token}
      {right : Expression} {later : List (Operator × Expression)} :
      operator? token = some operator →
      Gives (operand others) right rest' → Gives (more rest') later rest →
      StepsGive (token :: others) ((operator, right) :: later) rest

variable {operator? operand more}

theorem chain_gives : Gives (chain operand more tokens) tree rest ↔
    ChainGives operand more tokens tree rest := by
  constructor
  · rintro ⟨_, found⟩
    obtain ⟨⟨⟨left, rest'⟩, shorter⟩, first, found⟩ := bind_eq_ok.mp found
    obtain ⟨⟨⟨steps, rest''⟩, fewer⟩, later, found⟩ := bind_eq_ok.mp found
    cases found
    exact .intro ⟨_, first⟩ ⟨_, later⟩
  · rintro ⟨⟨_, first⟩, ⟨_, later⟩⟩
    exact ⟨_, bind_eq_ok.mpr ⟨_, first, bind_eq_ok.mpr ⟨_, later, rfl⟩⟩⟩

theorem chainSteps_gives : Gives (chainSteps operator? operand more tokens) steps rest ↔
    StepsGive operator? operand more tokens steps rest := by
  constructor
  · rintro ⟨_, found⟩
    cases tokens with
    | nil =>
        cases found
        exact .stop (by simp)
    | cons token others =>
        rw [chainSteps] at found
        cases stops : operator? token with
        | none =>
            rw [stops] at found
            cases found
            exact .stop (by simpa using stops)
        | some operator =>
            rw [stops] at found
            obtain ⟨⟨⟨right, rest'⟩, shorter⟩, first, found⟩ := bind_eq_ok.mp found
            obtain ⟨⟨⟨later, rest''⟩, fewer⟩, after, found⟩ := bind_eq_ok.mp found
            cases found
            exact .step stops ⟨_, first⟩ ⟨_, after⟩
  · rintro (stops | ⟨isOperator, ⟨_, first⟩, ⟨_, after⟩⟩)
    · refine ⟨Nat.le_refl _, ?_⟩
      cases tokens with
      | nil => rfl
      | cons token others =>
          rw [chainSteps, stops token rfl]
          rfl
    · rw [chainSteps, isOperator]
      exact ⟨_, bind_eq_ok.mpr ⟨_, first, bind_eq_ok.mpr ⟨_, after, rfl⟩⟩⟩

theorem parseSum_eq : parseSum tokens = chain parseProduct parseTerms tokens := by
  rw [parseSum, chain]
  rcases parseProduct tokens with fault | ⟨⟨left, rest⟩, shorter⟩
  · rfl
  · dsimp only [bind, Except.bind]
    cases parseTerms rest <;> rfl

theorem parseTerms_eq :
    parseTerms tokens = chainSteps Token.additive? parseProduct parseTerms tokens := by
  cases tokens with
  | nil => rw [parseTerms, chainSteps, noSteps]
  | cons token others =>
      rw [parseTerms, chainSteps]
      cases token.additive? with
      | none => rfl
      | some operator =>
          rcases parseProduct others with fault | ⟨⟨right, rest⟩, shorter⟩
          · rfl
          · dsimp only [Option.elim, bind, Except.bind]
            cases parseTerms rest <;> rfl

theorem parseProduct_eq : parseProduct tokens = chain parseUnary parseFactors tokens := by
  rw [parseProduct, chain]
  rcases parseUnary tokens with fault | ⟨⟨left, rest⟩, shorter⟩
  · rfl
  · dsimp only [bind, Except.bind]
    cases parseFactors rest <;> rfl

theorem parseFactors_eq :
    parseFactors tokens = chainSteps Token.multiplicative? parseUnary parseFactors tokens := by
  cases tokens with
  | nil => rw [parseFactors, chainSteps, noSteps]
  | cons token others =>
      rw [parseFactors, chainSteps]
      cases token.multiplicative? with
      | none => rfl
      | some operator =>
          rcases parseUnary others with fault | ⟨⟨right, rest⟩, shorter⟩
          · rfl
          · dsimp only [Option.elim, bind, Except.bind]
            cases parseFactors rest <;> rfl

theorem parseSum_gives : Gives (parseSum tokens) tree rest ↔
    ChainGives parseProduct parseTerms tokens tree rest := by
  rw [parseSum_eq, chain_gives]

theorem parseTerms_gives : Gives (parseTerms tokens) steps rest ↔
    StepsGive Token.additive? parseProduct parseTerms tokens steps rest := by
  rw [parseTerms_eq, chainSteps_gives]

theorem parseProduct_gives : Gives (parseProduct tokens) tree rest ↔
    ChainGives parseUnary parseFactors tokens tree rest := by
  rw [parseProduct_eq, chain_gives]

theorem parseFactors_gives : Gives (parseFactors tokens) steps rest ↔
    StepsGive Token.multiplicative? parseUnary parseFactors tokens steps rest := by
  rw [parseFactors_eq, chainSteps_gives]

end Chains

/-! ### Values -/

theorem opening?_eq_minus : token.opening? = some .minus ↔ token = .minus := by
  cases token <;> simp [Token.opening?]

theorem opening?_eq_group : token.opening? = some .group ↔ token = .openParen := by
  cases token <;> simp [Token.opening?]

theorem opening?_eq_list : token.opening? = some .list ↔ token = .openBracket := by
  cases token <;> simp [Token.opening?]

inductive UnaryGives : List Token → Expression → List Token → Prop where
  | whole {token : Token} {tree : Expression} {rest : List Token} :
      token.opening? = some (.whole tree) →
      UnaryGives (token :: rest) tree rest
  | minus {more rest : List Token} {operand : Expression} : Gives (parseUnary more) operand rest →
      UnaryGives (.minus :: more) (.neg operand) rest
  | group {more rest : List Token} {inner : Expression} :
      Gives (parseSum more) inner (.closeParen :: rest) →
      UnaryGives (.openParen :: more) inner rest
  | empty {rest : List Token} : UnaryGives (.openBracket :: .closeBracket :: rest) (.list []) rest
  | list {more rest : List Token} {items : List Expression} :
      (∀ left, more ≠ .closeBracket :: left) →
      Gives (parseItems more) items (.closeBracket :: rest) →
      UnaryGives (.openBracket :: more) (.list items) rest

theorem parseUnary_gives : Gives (parseUnary tokens) tree rest ↔ UnaryGives tokens tree rest := by
  constructor
  · rintro ⟨_, found⟩
    cases tokens with
    | nil =>
      rw [parseUnary] at found
      cases found
    | cons token more =>
    rw [parseUnary] at found
    split at found
    next => cases found
    next expression whole =>
      cases found
      exact .whole whole
    next minus =>
      split at found
      next => cases found
      next operand rest' shorter unary =>
        cases found
        cases opening?_eq_minus.mp minus
        exact .minus ⟨_, unary⟩
    next group =>
      split at found
      next => cases found
      next inner rest' shorter sum =>
      split at found
      next => cases found
      next left shorter' closed =>
        cases found
        cases opening?_eq_group.mp group
        cases expect_eq_ok_iff.mp closed
        exact .group ⟨_, sum⟩
    next list =>
      cases opening?_eq_list.mp list
      split at found
      next left shorter closed =>
        cases found
        cases after?_eq_some_iff.mp closed
        exact .empty
      next opened =>
      split at found
      next => cases found
      next items rest' shorter parsed =>
      split at found
      next => cases found
      next left shorter' closed =>
        cases found
        cases expect_eq_ok_iff.mp closed
        exact .list (after?_eq_none_iff.mp opened) ⟨_, parsed⟩
  · intro gives
    cases gives with
    | whole whole =>
        refine ⟨Nat.lt_succ_self _, ?_⟩
        rw [parseUnary, whole]
    | minus unary =>
        obtain ⟨shorter, unary⟩ := unary
        refine ⟨Nat.lt_succ_of_lt shorter, ?_⟩
        rw [parseUnary]
        simp only [Token.opening?]
        rw [unary]
    | group sum =>
        obtain ⟨shorter, sum⟩ := sum
        refine ⟨by simp only [List.length_cons] at shorter ⊢; omega, ?_⟩
        rw [parseUnary]
        simp only [Token.opening?]
        rw [sum]
        dsimp only
        rw [expect_self]
    | empty =>
        refine ⟨by simp only [List.length_cons]; omega, ?_⟩
        rw [parseUnary]
        simp only [Token.opening?]
        rw [after?_self]
    | list opened parsed =>
        obtain ⟨shorter, parsed⟩ := parsed
        refine ⟨by simp only [List.length_cons] at shorter ⊢; omega, ?_⟩
        rw [parseUnary]
        simp only [Token.opening?]
        rw [after?_eq_none_iff.mpr opened]
        dsimp only
        rw [parsed]
        dsimp only
        rw [expect_self]

inductive ItemsGive : List Token → List Expression → List Token → Prop where
  | last {tokens item rest} : Gives (parseSum tokens) item rest → (∀ left, rest ≠ .comma :: left) →
      ItemsGive tokens [item] rest
  | next {tokens item left others rest} : Gives (parseSum tokens) item (.comma :: left) →
      Gives (parseItems left) others rest → ItemsGive tokens (item :: others) rest

theorem parseItems_gives : Gives (parseItems tokens) trees rest ↔ ItemsGive tokens trees rest := by
  constructor
  · rintro ⟨_, found⟩
    rw [parseItems] at found
    split at found
    next => cases found
    next item rest' shorter sum =>
    split at found
    next last =>
      cases found
      exact .last ⟨_, sum⟩ (after?_eq_none_iff.mp last)
    next left shorter' goesOn =>
    split at found
    next => cases found
    next others rest'' shorter'' items =>
      cases found
      cases after?_eq_some_iff.mp goesOn
      exact .next ⟨_, sum⟩ ⟨_, items⟩
  · intro gives
    cases gives with
    | last sum last =>
        obtain ⟨shorter, sum⟩ := sum
        refine ⟨shorter, ?_⟩
        rw [parseItems, sum]
        dsimp only
        rw [after?_eq_none_iff.mpr last]
    | next sum items =>
        obtain ⟨shorter, sum⟩ := sum
        obtain ⟨shorter', items⟩ := items
        refine ⟨by simp only [List.length_cons] at shorter shorter' ⊢; omega, ?_⟩
        rw [parseItems, sum]
        dsimp only
        rw [after?_self]
        dsimp only
        rw [items]

/-! ## The parser derives -/

@[simp] theorem applyAll_nil : applyAll tree [] = tree := rfl

@[simp] theorem applyAll_cons {operator : Operator} {right : Expression} :
    applyAll tree ((operator, right) :: steps) = applyAll (.binary operator tree right) steps :=
  rfl

theorem additive?_eq_some_iff {operator : Operator} :
    token.additive? = some operator ↔ operator.level = .sum ∧ token = operator.token := by
  cases token <;> cases operator <;> simp [Token.additive?, Operator.level, Operator.token]

theorem multiplicative?_eq_some_iff {operator : Operator} :
    token.multiplicative? = some operator ↔ operator.level = .product ∧ token = operator.token := by
  cases token <;> cases operator <;> simp [Token.multiplicative?, Operator.level, Operator.token]

-- The recursion is the parser's own: a call is on fewer tokens, or on as many at a tighter level.
mutual

theorem derives_of_parseSum {tokens rest : List Token} {tree : Expression}
    (found : Gives (parseSum tokens) tree rest) :
    ∃ front, tokens = front ++ rest ∧ Derives .sum front tree := by
  cases parseSum_gives.mp found with
  | @intro rest' _ left steps product terms =>
      have shorter : rest'.length < tokens.length := product.holds
      obtain ⟨front, rfl, derived⟩ := derives_of_parseProduct product
      obtain ⟨back, rfl, continued⟩ := derives_of_parseTerms terms
      exact ⟨front ++ back, (List.append_assoc ..).symm, continued front left (.term derived)⟩
termination_by 4 * tokens.length + 3

theorem derives_of_parseTerms {tokens rest : List Token} {steps : List (Operator × Expression)}
    (found : Gives (parseTerms tokens) steps rest) :
    ∃ back, tokens = back ++ rest ∧ ∀ front left, Derives .sum front left →
      Derives .sum (front ++ back) (applyAll left steps) := by
  cases parseTerms_gives.mp found with
  | stop => exact ⟨[], rfl, fun front left derived => by simpa using derived⟩
  | @step token operator more rest' _ right _ adds product terms =>
      have shorter : rest'.length < more.length := product.holds
      obtain ⟨additive, rfl⟩ := additive?_eq_some_iff.mp adds
      obtain ⟨operand, rfl, derived⟩ := derives_of_parseProduct product
      obtain ⟨back, rfl, continued⟩ := derives_of_parseTerms terms
      refine ⟨operator.token :: operand ++ back, by simp, fun front left derivedLeft => ?_⟩
      have step := continued _ _ (.sum additive derivedLeft derived)
      simpa using step
termination_by 4 * tokens.length

theorem derives_of_parseProduct {tokens rest : List Token} {tree : Expression}
    (found : Gives (parseProduct tokens) tree rest) :
    ∃ front, tokens = front ++ rest ∧ Derives .product front tree := by
  cases parseProduct_gives.mp found with
  | @intro rest' _ left steps unary factors =>
      have shorter : rest'.length < tokens.length := unary.holds
      obtain ⟨front, rfl, derived⟩ := derives_of_parseUnary unary
      obtain ⟨back, rfl, continued⟩ := derives_of_parseFactors factors
      exact ⟨front ++ back, (List.append_assoc ..).symm, continued front left (.factor derived)⟩
termination_by 4 * tokens.length + 2

theorem derives_of_parseFactors {tokens rest : List Token} {steps : List (Operator × Expression)}
    (found : Gives (parseFactors tokens) steps rest) :
    ∃ back, tokens = back ++ rest ∧ ∀ front left, Derives .product front left →
      Derives .product (front ++ back) (applyAll left steps) := by
  cases parseFactors_gives.mp found with
  | stop => exact ⟨[], rfl, fun front left derived => by simpa using derived⟩
  | @step token operator more rest' _ right _ multiplies unary factors =>
      have shorter : rest'.length < more.length := unary.holds
      obtain ⟨multiplicative, rfl⟩ := multiplicative?_eq_some_iff.mp multiplies
      obtain ⟨operand, rfl, derived⟩ := derives_of_parseUnary unary
      obtain ⟨back, rfl, continued⟩ := derives_of_parseFactors factors
      refine ⟨operator.token :: operand ++ back, by simp, fun front left derivedLeft => ?_⟩
      have step := continued _ _ (.product multiplicative derivedLeft derived)
      simpa using step
termination_by 4 * tokens.length

theorem derives_of_parseUnary {tokens rest : List Token} {tree : Expression}
    (found : Gives (parseUnary tokens) tree rest) :
    ∃ front, tokens = front ++ rest ∧ Derives .unary front tree := by
  cases parseUnary_gives.mp found with
  | @whole token _ _ whole =>
      refine ⟨[token], rfl, .operand ?_⟩
      cases token <;> cases whole
      · exact .int
      · exact .text
      · exact .name
  | minus unary =>
      obtain ⟨front, rfl, derived⟩ := derives_of_parseUnary unary
      exact ⟨.minus :: front, rfl, .negated derived⟩
  | group sum =>
      obtain ⟨front, rfl, derived⟩ := derives_of_parseSum sum
      exact ⟨.openParen :: (front ++ [.closeParen]), by simp, .operand (.group derived)⟩
  | empty =>
      have none : ∀ item ∈ ([] : List (List Token × Expression)), Derives .sum item.1 item.2 :=
        nofun
      exact ⟨[.openBracket, .closeBracket], rfl, .operand (.list none)⟩
  | list _ items =>
      obtain ⟨parts, -, rfl, rfl, derived⟩ := derives_of_parseItems items
      exact ⟨_, by simp, .operand (.list derived)⟩
termination_by 4 * tokens.length + 1

theorem derives_of_parseItems {tokens rest : List Token} {trees : List Expression}
    (found : Gives (parseItems tokens) trees rest) :
    ∃ parts : List (List Token × Expression), parts ≠ [] ∧
      tokens = [Token.comma].intercalate (parts.map Prod.fst) ++ rest ∧
        trees = parts.map Prod.snd ∧ ∀ part ∈ parts, Derives .sum part.1 part.2 := by
  cases parseItems_gives.mp found with
  | @last item _ sum _ =>
      obtain ⟨front, rfl, derived⟩ := derives_of_parseSum sum
      exact ⟨[(front, item)], List.cons_ne_nil _ _, by simp, rfl, by simpa using derived⟩
  | @next item left others _ sum items =>
      have shorter : (Token.comma :: left).length < tokens.length := sum.holds
      obtain ⟨front, rfl, derived⟩ := derives_of_parseSum sum
      obtain ⟨parts, nonempty, rfl, rfl, each⟩ := derives_of_parseItems items
      refine ⟨(front, item) :: parts, List.cons_ne_nil _ _, ?_, rfl,
        List.forall_mem_cons.mpr ⟨derived, each⟩⟩
      rw [List.map_cons, List.intercalate_cons_of_ne_nil (by simpa using nonempty)]
      simp
termination_by 4 * tokens.length + 4

end

/-! ## What is derived is parsed -/

/-- Whatever comes after the tokens, the parser of the level finds the tree in front of it and
goes on. No factor may follow a sum, since it would belong to the last product. -/
def Level.Parses : Level → List Token → Expression → Prop
  | .sum, tokens, tree => ∀ rest steps left, (∀ token ∈ rest.head?, token.multiplicative? = none) →
      Gives (parseTerms rest) steps left →
      Gives (parseSum (tokens ++ rest)) (applyAll tree steps) left
  | .product, tokens, tree => ∀ rest steps left, Gives (parseFactors rest) steps left →
      Gives (parseProduct (tokens ++ rest)) (applyAll tree steps) left
  | .unary, tokens, tree | .primary, tokens, tree => ∀ rest,
      Gives (parseUnary (tokens ++ rest)) tree rest

/-- Neither a sum nor a product goes on with the tokens. -/
def Ends (tokens : List Token) : Prop :=
  ∀ token ∈ tokens.head?, token.additive? = none ∧ token.multiplicative? = none

theorem Ends.nil : Ends [] := nofun

theorem Ends.cons (additive : token.additive? = none)
    (multiplicative : token.multiplicative? = none) : Ends (token :: rest) := by
  rintro _ ⟨⟩
  exact ⟨additive, multiplicative⟩

theorem parseFactors_of_ends (ends : ∀ token ∈ rest.head?, token.multiplicative? = none) :
    Gives (parseFactors rest) [] rest :=
  parseFactors_gives.mpr (.stop ends)

theorem Level.Parses.gives (parses : Level.sum.Parses tokens tree) (ends : Ends rest) :
    Gives (parseSum (tokens ++ rest)) tree rest := by
  have terms : Gives (parseTerms rest) [] rest :=
    parseTerms_gives.mpr (.stop fun token head => (ends token head).1)
  exact parses rest [] rest (fun token head => (ends token head).2) terms

/-- A value does not start with a closing bracket, so a list of items is no empty list. -/
theorem not_closeBracket_of_parseSum (found : Gives (parseSum tokens) tree rest)
    (left : List Token) : tokens ≠ .closeBracket :: left := by
  rintro rfl
  cases parseSum_gives.mp found with
  | intro product => cases parseProduct_gives.mp product with
    | intro unary => cases parseUnary_gives.mp unary with
      | whole whole => cases whole

theorem not_closeBracket_of_parseItems (found : Gives (parseItems tokens) trees rest)
    (left : List Token) : tokens ≠ .closeBracket :: left := by
  cases parseItems_gives.mp found with
  | last sum | next sum => exact not_closeBracket_of_parseSum sum left

theorem parseItems_of_parses {items : List (List Token × Expression)} (nonempty : items ≠ [])
    (each : ∀ item ∈ items, Level.sum.Parses item.1 item.2) (rest : List Token) :
    Gives (parseItems ([Token.comma].intercalate (items.map Prod.fst) ++ .closeBracket :: rest))
      (items.map Prod.snd) (.closeBracket :: rest) := by
  induction items with
  | nil => exact absurd rfl nonempty
  | cons item items ih =>
      obtain ⟨first, others⟩ := List.forall_mem_cons.mp each
      refine parseItems_gives.mpr ?_
      cases items with
      | nil =>
          rw [List.map_singleton, List.intercalate_singleton]
          exact .last (first.gives (.cons rfl rfl)) nofun
      | cons next items =>
          have later := ih (List.cons_ne_nil _ _) others
          rw [List.map_cons, List.intercalate_cons_of_ne_nil (by simp), List.append_assoc,
            List.append_assoc]
          exact .next (first.gives (.cons rfl rfl)) later

/-- By induction on the derivation, which groups to the left, while the parser finds all operands of
a sum or a product in one go: what the right operand is followed by is left open. -/
theorem Derives.parses {level : Level} (derived : Derives level tokens tree) :
    level.Parses tokens tree := by
  induction derived with
  | int | text | name =>
      intro rest
      exact parseUnary_gives.mpr (.whole rfl)
  | @group tokens inner _ ih =>
      intro rest
      rw [List.cons_append, List.append_assoc]
      exact parseUnary_gives.mpr (.group (ih.gives (.cons rfl rfl)))
  | @list items _ ih =>
      intro rest
      rw [List.cons_append, List.append_assoc]
      cases items with
      | nil => exact parseUnary_gives.mpr .empty
      | cons item items =>
          have found := parseItems_of_parses (List.cons_ne_nil _ _) ih rest
          exact parseUnary_gives.mpr (.list (not_closeBracket_of_parseItems found) found)
  | operand _ ih => exact ih
  | negated _ ih =>
      intro rest
      exact parseUnary_gives.mpr (.minus (ih rest))
  | factor _ ih =>
      intro rest steps left factors
      exact parseProduct_gives.mpr (.intro (ih rest) factors)
  | @product operator before after left right multiplies _ _ leftIH rightIH =>
      intro rest steps left' factors
      have next := parseFactors_gives.mpr
        (.step (multiplicative?_eq_some_iff.mpr ⟨multiplies, rfl⟩) (rightIH rest) factors)
      rw [List.append_assoc, List.cons_append]
      exact leftIH _ _ _ next
  | term _ ih =>
      intro rest steps left ends terms
      have product := ih rest [] rest (parseFactors_of_ends ends)
      exact parseSum_gives.mpr (.intro product terms)
  | @sum operator before after left right adds _ _ leftIH rightIH =>
      intro rest steps left' ends terms
      have product := rightIH rest [] rest (parseFactors_of_ends ends)
      have next := parseTerms_gives.mpr
        (.step (additive?_eq_some_iff.mpr ⟨adds, rfl⟩) product terms)
      have noFactor : operator.token.multiplicative? = none := by
        cases operator <;> cases adds <;> rfl
      rw [List.append_assoc, List.cons_append]
      exact leftIH _ _ _ (by simpa using noFactor) next

/-! ## Bodies -/

theorem finish_eq_ok_iff {body found : Body} :
    finish body rest = .ok found ↔ rest = [] ∧ found = body := by
  cases rest <;> simp [finish, eq_comm]

theorem parseBody_eq_ok_iff {body : Body} : parseBody tokens = .ok body ↔
    (∃ tree, Gives (parseSum tokens) tree [] ∧ body = .single tree) ∨
    ∃ first left last, Gives (parseSum tokens) first (.dots :: left) ∧
      Gives (parseSum left) last [] ∧ body = .span first last := by
  constructor
  · intro found
    unfold parseBody at found
    split at found
    next => cases found
    next first rest shorter sum =>
    split at found
    next =>
      obtain ⟨rfl, rfl⟩ := finish_eq_ok_iff.mp found
      exact .inl ⟨first, ⟨_, sum⟩, rfl⟩
    next left shorter' dots =>
    split at found
    next => cases found
    next last left' shorter'' sum' =>
      obtain ⟨rfl, rfl⟩ := finish_eq_ok_iff.mp found
      cases after?_eq_some_iff.mp dots
      exact .inr ⟨first, left, last, ⟨_, sum⟩, ⟨_, sum'⟩, rfl⟩
  · rintro (⟨tree, ⟨_, sum⟩, rfl⟩ | ⟨first, left, last, ⟨_, sum⟩, ⟨_, sum'⟩, rfl⟩)
    · rw [parseBody, sum]
      rfl
    · rw [parseBody, sum]
      dsimp only
      rw [after?_self]
      dsimp only
      rw [sum']
      rfl

/-- The parser finds exactly the bodies that the grammar derives. -/
theorem parseBody_eq_ok_iff_derives {body : Body} :
    parseBody tokens = .ok body ↔ DerivesBody tokens body := by
  rw [parseBody_eq_ok_iff]
  constructor
  · rintro (⟨tree, sum, rfl⟩ | ⟨first, left, last, sum, sum', rfl⟩)
    · obtain ⟨front, rfl, derived⟩ := derives_of_parseSum sum
      rw [List.append_nil]
      exact .single derived
    · obtain ⟨before, rfl, derivedFirst⟩ := derives_of_parseSum sum
      obtain ⟨after, rfl, derivedLast⟩ := derives_of_parseSum sum'
      rw [List.append_nil]
      exact .span derivedFirst derivedLast
  · rintro (derived | ⟨derivedFirst, derivedLast⟩)
    · have sum := derived.parses.gives .nil
      rw [List.append_nil] at sum
      exact .inl ⟨_, sum, rfl⟩
    · have sum := derivedLast.parses.gives .nil
      rw [List.append_nil] at sum
      exact .inr ⟨_, _, _, derivedFirst.parses.gives (.cons rfl rfl), sum, rfl⟩

theorem DerivesBody.unique {body other : Body} (derived : DerivesBody tokens body)
    (derivedOther : DerivesBody tokens other) : body = other := by
  have same := parseBody_eq_ok_iff_derives.mpr derived
  rw [parseBody_eq_ok_iff_derives.mpr derivedOther] at same
  exact (Except.ok.inj same).symm

theorem Body.parse_eq_ok_iff {chars : List Char} {body : Body} : parse chars = .ok body ↔
    ∃ tokens, Lexes chars tokens ∧ DerivesBody tokens body := by
  simp only [← tokenize_eq_ok_iff, ← parseBody_eq_ok_iff_derives]
  unfold parse
  cases tokenize chars with
  | error => simp
  | ok tokens => cases found : parseBody tokens <;> simp [found]

end Sharding.Template
