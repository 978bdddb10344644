import Sharding.Proofs.Outcome
import Sharding.Proofs.Word.Decimal
import Sharding.Template.Expression

/-!
# Arithmetic of placeholders

The integers that expressions stand for, over all integers and without any fault but those of
arithmetic itself. Evaluation in words finds the integer of an expression or fails, and it fails
only for a reason: a list, a name without a value, a text that is no integer, a zero divisor, or a
result on the way that fits in no word.
-/

set_option autoImplicit false

namespace Sharding

open scoped Word

/-! ## Words -/

namespace Word

variable {a b result : Int64}

theorem exists_toInt_eq {n : Int} (fits : Fits n) : ∃ word : Int64, word.toInt = n :=
  ⟨Int64.ofInt n, Int64.toInt_ofInt_of_le fits.1 fits.2⟩

theorem fits_tdiv_iff (notZero : b.toInt ≠ 0) :
    Fits (a.toInt.tdiv b.toInt) ↔ ¬ (a.toInt = -2 ^ (63 : Nat) ∧ b.toInt = -1) := by
  have lower := Int64.le_toInt a
  have upper := Int64.toInt_lt a
  unfold Fits
  by_cases one : b.toInt = 1
  · rw [one, Int.tdiv_one]
    omega
  by_cases minusOne : b.toInt = -1
  · rw [minusOne, Int.tdiv_neg, Int.tdiv_one]
    omega
  · have halved : (a.toInt.tdiv b.toInt).natAbs ≤ a.toInt.natAbs / 2 := by
      rw [Int.natAbs_tdiv]
      exact Nat.div_le_div_left (by omega) (by decide)
    omega

theorem rem?_eq_some_iff (notZero : b.toInt ≠ 0) :
    rem? a b = some result ↔ a.toInt.tmod b.toInt = result.toInt ∧
      ¬ (a.toInt = -2 ^ (63 : Nat) ∧ b.toInt = -1) := by
  rw [← fits_tdiv_iff notZero, rem?, div?, ofInt?]
  split
  next fits => rw [Option.bind_some, ofInt?_eq_some_iff, eq_comm, and_iff_left fits]
  next unfit => simp [unfit]

end Word

namespace Template

/-! ## Integers without bounds -/

/-- The integer that a value reads as. -/
def Scalar.integer? : Scalar → Option Int
  | .int value => some value.toInt
  | .text content => (Word.parse? (Text.trim content)).map Int64.toInt

/-- The result over all integers. Quotients are truncated toward zero, and remainders have the sign
of the dividend. -/
def Operator.integer? (operator : Operator) (a b : Int) : Option Int :=
  match operator with
  | .add => some (a + b)
  | .sub => some (a - b)
  | .mul => some (a * b)
  | .div => if b = 0 then none else some (a.tdiv b)
  | .rem => if b = 0 then none else some (a.tmod b)

namespace Expression

/-- The integer that an expression stands for over all integers. -/
def integer? (bindings : Bindings) : Expression → Option Int
  | .int value => some value.toInt
  | .text content => (Scalar.text content).integer?
  | .name word => (bindings word).bind Scalar.integer?
  | .neg operand => (operand.integer? bindings).map (-·)
  | .binary operator left right => do
    operator.integer? (← left.integer? bindings) (← right.integer? bindings)
  | .list _ => none

/-- Induction on the operands of an expression. Items of lists are none. -/
@[elab_as_elim]
theorem operand_induction {motive : Expression → Prop} (int : ∀ value, motive (.int value))
    (text : ∀ content, motive (.text content)) (name : ∀ word, motive (.name word))
    (neg : ∀ operand, motive operand → motive (.neg operand))
    (binary : ∀ operator left right, motive left → motive right →
      motive (.binary operator left right))
    (list : ∀ items, motive (.list items)) (expression : Expression) : motive expression :=
  integer?.induct motive int text name neg binary list expression

/-- The expression and all operands in it. -/
def parts : Expression → List Expression
  | .neg operand => .neg operand :: operand.parts
  | .binary operator left right => .binary operator left right :: (left.parts ++ right.parts)
  | leaf => [leaf]

def operands : Expression → List Expression
  | .neg operand => [operand]
  | .binary _ left right => [left, right]
  | _ => []

/-- The value of an expression without operators. -/
def leaf? (bindings : Bindings) : Expression → Option Scalar
  | .int value => some (.int value)
  | .text content => some (.text content)
  | .name word => bindings word
  | _ => none

/-- If the operand is a text or the name of one, the text reads as a word. -/
def Reads (bindings : Bindings) (operand : Expression) : Prop :=
  ∀ content, operand.leaf? bindings = some (.text content) →
    Word.parse? (Text.trim content) ≠ none

/-- Nothing is wrong with a part of an expression itself, whatever is wrong inside it. -/
structure Sound (bindings : Bindings) (part : Expression) : Prop where
  single : ∀ items, part ≠ .list items
  bound : ∀ word, part = .name word → bindings word ≠ none
  operandsRead : ∀ operand ∈ part.operands, operand.Reads bindings
  notZero : ∀ operator left right, part = .binary operator left right →
    operator = .div ∨ operator = .rem → right.integer? bindings ≠ some 0
  fits : ∀ n, part.integer? bindings = some n → Word.Fits n
  remFits : ∀ left right, part = .binary .rem left right →
    ¬ (left.integer? bindings = some (-2 ^ (63 : Nat)) ∧ right.integer? bindings = some (-1))

end Expression

variable {bindings : Bindings} {operator : Operator} {expression operand left right : Expression}
  {value : Scalar}

/-! ## Operators -/

theorem ofWord?_eq_ok_iff {word : Option Int64} {n : Int64} :
    ofWord? word = .ok n ↔ word = some n := by
  cases word <;> simp [ofWord?]

theorem ofWord?_ofInt?_eq_ok_iff {exact : Int} {n : Int64} :
    ofWord? (Word.ofInt? exact) = .ok n ↔ exact = n.toInt := by
  rw [ofWord?_eq_ok_iff, Word.ofInt?_eq_some_iff, eq_comm]

/-- An operator works on words as it does on integers wherever the integer fits, but for the one
remainder that is refused together with its quotient. -/
theorem Operator.apply_eq_ok_iff {a b n : Int64} :
    operator.apply a b = .ok n ↔ operator.integer? a.toInt b.toInt = some n.toInt ∧
      ¬ (operator = .rem ∧ a.toInt = -2 ^ (63 : Nat) ∧ b.toInt = -1) := by
  have zero : b = 0 ↔ b.toInt = 0 := by rw [← Int64.toInt_inj, Int64.toInt_zero]
  cases operator with
  | add => simp [apply, integer?, Word.add?, ofWord?_ofInt?_eq_ok_iff]
  | sub => simp [apply, integer?, Word.sub?, ofWord?_ofInt?_eq_ok_iff]
  | mul => simp [apply, integer?, Word.mul?, ofWord?_ofInt?_eq_ok_iff]
  | div =>
      by_cases isZero : b.toInt = 0
      · simp [apply, integer?, zero, isZero]
      · simp [apply, integer?, zero, isZero, Word.div?, ofWord?_ofInt?_eq_ok_iff]
  | rem =>
      by_cases isZero : b.toInt = 0
      · simp [apply, integer?, zero, isZero]
      · simp [apply, integer?, zero, isZero, ofWord?_eq_ok_iff, Word.rem?_eq_some_iff isZero]

example : Operator.rem.apply Int64.minValue (-1) = .error .overflow := by decide

theorem Operator.integer?_eq_none_iff {a b : Int} :
    operator.integer? a b = none ↔ (operator = .div ∨ operator = .rem) ∧ b = 0 := by
  cases operator <;> simp [integer?]

/-- Results are refused for nothing but a zero divisor, the bounds of words and the one
remainder. -/
theorem Operator.exists_apply_eq_ok {a b : Int64}
    (notZero : operator = .div ∨ operator = .rem → b.toInt ≠ 0)
    (fits : ∀ n, operator.integer? a.toInt b.toInt = some n → Word.Fits n)
    (remFits : ¬ (operator = .rem ∧ a.toInt = -2 ^ (63 : Nat) ∧ b.toInt = -1)) :
    ∃ n, operator.apply a b = .ok n := by
  have some_integer : operator.integer? a.toInt b.toInt ≠ none := fun none =>
    let ⟨divides, zero⟩ := integer?_eq_none_iff.mp none
    notZero divides zero
  obtain ⟨exact, is_exact⟩ := Option.ne_none_iff_exists'.mp some_integer
  obtain ⟨n, rfl⟩ := Word.exists_toInt_eq (fits exact is_exact)
  exact ⟨n, apply_eq_ok_iff.mpr ⟨is_exact, remFits⟩⟩

theorem Scalar.toInt_eq_ok_iff {n : Int64} :
    value.toInt = .ok n ↔ value.integer? = some n.toInt := by
  cases value with
  | int word => simp [Scalar.toInt, integer?, Int64.toInt_inj]
  | text content =>
      cases read : Word.parse? (Text.trim content) with
      | none => simp [Scalar.toInt, integer?, read]
      | some word => simp [Scalar.toInt, integer?, read, Int64.toInt_inj]

theorem Scalar.fits_of_integer? {n : Int} (reads : value.integer? = some n) : Word.Fits n := by
  cases value with
  | int word =>
      cases reads
      exact Word.fits_toInt word
  | text content =>
      rw [Scalar.integer?, Option.map_eq_some_iff] at reads
      obtain ⟨word, -, rfl⟩ := reads
      exact Word.fits_toInt word

namespace Expression

/-- The word that an expression reads as when it is an operand. -/
def operandWord (bindings : Bindings) (operand : Expression) : Except EvalFault Int64 := do
  (← operand.eval bindings).toInt

theorem eval_neg : (neg operand).eval bindings = do
    return .int (← ofWord? (Word.neg? (← operand.operandWord bindings))) := by
  simp only [eval, operandWord, bind_assoc]

theorem eval_binary : (binary operator left right).eval bindings = do
    let a ← left.operandWord bindings
    let b ← right.operandWord bindings
    return .int (← operator.apply a b) := by
  simp only [eval, operandWord, bind_assoc]

theorem eval_neg_eq_ok_iff : (neg operand).eval bindings = .ok value ↔
    ∃ a, operand.operandWord bindings = .ok a ∧ ∃ n : Int64, -a.toInt = n.toInt ∧
      value = .int n := by
  simp only [eval_neg, bind_eq_ok, pure_eq_ok, Word.neg?, ofWord?_ofInt?_eq_ok_iff,
    @eq_comm _ value]

theorem eval_binary_eq_ok_iff : (binary operator left right).eval bindings = .ok value ↔
    ∃ a, left.operandWord bindings = .ok a ∧ ∃ b, right.operandWord bindings = .ok b ∧
      ∃ n, operator.apply a b = .ok n ∧ value = .int n := by
  simp only [eval_binary, bind_eq_ok, pure_eq_ok, @eq_comm _ value]

/-! ## Values and their integers -/

theorem integer?_of_operandWord {n : Int64}
    (exact : ∀ value, operand.eval bindings = .ok value →
      operand.integer? bindings = value.integer?)
    (read : operand.operandWord bindings = .ok n) : operand.integer? bindings = some n.toInt := by
  obtain ⟨value, found, reads⟩ := bind_eq_ok.mp read
  rw [exact value found, Scalar.toInt_eq_ok_iff.mp reads]

/-- Whatever evaluation finds reads as the integer of the expression. -/
theorem integer?_of_eval (found : expression.eval bindings = .ok value) :
    expression.integer? bindings = value.integer? := by
  induction expression using operand_induction generalizing value with
  | int word | text content =>
      cases found
      rfl
  | name word =>
      rw [eval] at found
      rw [integer?]
      split at found
      next bound =>
        cases found
        rw [bound]
        rfl
      next => cases found
  | neg operand ih =>
      obtain ⟨a, read, n, negated, rfl⟩ := eval_neg_eq_ok_iff.mp found
      rw [integer?, integer?_of_operandWord (fun _ => ih) read, Option.map_some, negated]
      rfl
  | binary operator left right leftIH rightIH =>
      obtain ⟨a, first, b, second, n, applied, rfl⟩ := eval_binary_eq_ok_iff.mp found
      rw [integer?, integer?_of_operandWord (fun _ => leftIH) first,
        integer?_of_operandWord (fun _ => rightIH) second]
      exact (Operator.apply_eq_ok_iff.mp applied).1
  | list items => cases found

theorem eval_of_leaf? (leaf : expression.leaf? bindings = some value) :
    expression.eval bindings = .ok value := by
  cases expression with
  | int word | text content =>
      cases leaf
      rfl
  | name word =>
      change bindings word = some value at leaf
      rw [eval, leaf]
  | neg operand | binary operator left right | list items => cases leaf

/-- Evaluation finds a text only where nothing is computed. -/
theorem leaf?_of_eval {content : String} (found : expression.eval bindings = .ok (.text content)) :
    expression.leaf? bindings = some (.text content) := by
  cases expression with
  | int word => cases found
  | text content =>
      cases found
      rfl
  | name word =>
      rw [eval] at found
      split at found
      next bound =>
        cases found
        exact bound
      next => cases found
  | neg operand =>
      obtain ⟨_, _, _, _, computed⟩ := eval_neg_eq_ok_iff.mp found
      cases computed
  | binary operator left right =>
      obtain ⟨_, _, _, _, _, _, computed⟩ := eval_binary_eq_ok_iff.mp found
      cases computed
  | list items => cases found

/-! ## When evaluation succeeds -/

theorem reads_of_operandWord {n : Int64} (read : operand.operandWord bindings = .ok n) :
    operand.Reads bindings := by
  intro content leaf refused
  rw [operandWord, eval_of_leaf? leaf] at read
  simp [Scalar.toInt, refused, bind, Except.bind] at read

theorem exists_operandWord (found : operand.eval bindings = .ok value)
    (reads : operand.Reads bindings) :
    ∃ n, operand.operandWord bindings = .ok n ∧ operand.integer? bindings = some n.toInt := by
  obtain ⟨word, exact⟩ : ∃ word : Int64, value.integer? = some word.toInt := by
    cases value with
    | int word => exact ⟨word, rfl⟩
    | text content =>
        obtain ⟨word, read⟩ := Option.ne_none_iff_exists'.mp (reads content (leaf?_of_eval found))
        exact ⟨word, by rw [Scalar.integer?, read, Option.map_some]⟩
  exact ⟨word, bind_eq_ok.mpr ⟨value, found, Scalar.toInt_eq_ok_iff.mpr exact⟩,
    (integer?_of_eval found).trans exact⟩

/-- What evaluates has nothing wrong with it. -/
theorem sound_of_eval (found : expression.eval bindings = .ok value) :
    expression.Sound bindings where
  single items list := by
    rw [list] at found
    cases found
  bound word name unbound := by
    rw [name, eval, unbound] at found
    cases found
  operandsRead operand member := by
    cases expression with
    | neg inner =>
        obtain ⟨a, read, -⟩ := eval_neg_eq_ok_iff.mp found
        cases List.mem_singleton.mp member
        exact reads_of_operandWord read
    | binary operator left right =>
        obtain ⟨a, first, b, second, -⟩ := eval_binary_eq_ok_iff.mp found
        rcases List.mem_cons.mp member with rfl | member
        · exact reads_of_operandWord first
        · cases List.mem_singleton.mp member
          exact reads_of_operandWord second
    | int word | text content | name word | list items => cases member
  notZero operator left right binary divides zero := by
    subst binary
    have exact := integer?_of_eval found
    obtain ⟨a, first, b, second, n, applied, rfl⟩ := eval_binary_eq_ok_iff.mp found
    have divisor := integer?_of_operandWord (fun _ => integer?_of_eval) second
    have computed := (Operator.apply_eq_ok_iff.mp applied).1
    rw [Operator.integer?_eq_none_iff.mpr ⟨divides, Option.some.inj (divisor.symm.trans zero)⟩]
      at computed
    cases computed
  fits n exact := Scalar.fits_of_integer? ((integer?_of_eval found).symm.trans exact)
  remFits left right binary outside := by
    subst binary
    obtain ⟨a, first, b, second, n, applied, rfl⟩ := eval_binary_eq_ok_iff.mp found
    have dividend := integer?_of_operandWord (fun _ => integer?_of_eval) first
    have divisor := integer?_of_operandWord (fun _ => integer?_of_eval) second
    refine (Operator.apply_eq_ok_iff.mp applied).2 ⟨rfl, ?_, ?_⟩
    · exact Option.some.inj (dividend.symm.trans outside.1)
    · exact Option.some.inj (divisor.symm.trans outside.2)

theorem exists_eval_neg (found : operand.eval bindings = .ok value)
    (sound : (neg operand).Sound bindings) : ∃ value, (neg operand).eval bindings = .ok value := by
  obtain ⟨a, read, exact⟩ :=
    exists_operandWord found (sound.operandsRead operand (by simp [operands]))
  obtain ⟨n, negated⟩ := Word.exists_toInt_eq (sound.fits (-a.toInt) (by rw [integer?, exact]; rfl))
  exact ⟨.int n, eval_neg_eq_ok_iff.mpr ⟨a, read, n, negated.symm, rfl⟩⟩

theorem exists_eval_binary {first second : Scalar} (leftFound : left.eval bindings = .ok first)
    (rightFound : right.eval bindings = .ok second)
    (sound : (binary operator left right).Sound bindings) :
    ∃ value, (binary operator left right).eval bindings = .ok value := by
  obtain ⟨a, firstRead, dividend⟩ :=
    exists_operandWord leftFound (sound.operandsRead left (by simp [operands]))
  obtain ⟨b, secondRead, divisor⟩ :=
    exists_operandWord rightFound (sound.operandsRead right (by simp [operands]))
  obtain ⟨n, applied⟩ : ∃ n, operator.apply a b = .ok n := by
    refine Operator.exists_apply_eq_ok (fun divides zero => ?_) (fun n exact => ?_) ?_
    · exact sound.notZero operator left right rfl divides (divisor.trans (congrArg some zero))
    · refine sound.fits n ?_
      rw [integer?, dividend, divisor]
      exact exact
    · rintro ⟨rfl, least, minusOne⟩
      exact sound.remFits left right rfl ⟨dividend.trans (congrArg some least),
        divisor.trans (congrArg some minusOne)⟩
  exact ⟨.int n, eval_binary_eq_ok_iff.mpr ⟨a, firstRead, b, secondRead, n, applied, rfl⟩⟩

/-- Evaluation succeeds exactly if nothing is wrong with any part. -/
theorem exists_eval_iff : (∃ value, expression.eval bindings = .ok value) ↔
    ∀ part ∈ expression.parts, part.Sound bindings := by
  -- The parts inside are sound by induction, and then only the operator itself can refuse.
  induction expression using operand_induction with
  | int word | text content =>
      refine ⟨fun ⟨_, found⟩ part member => ?_, fun _ => ⟨_, rfl⟩⟩
      cases List.mem_singleton.mp member
      exact sound_of_eval found
  | name word =>
      refine ⟨fun ⟨_, found⟩ part member => ?_, fun sound => ?_⟩
      · cases List.mem_singleton.mp member
        exact sound_of_eval found
      · obtain ⟨value, bound⟩ := Option.ne_none_iff_exists'.mp
          ((sound _ (List.mem_singleton.mpr rfl)).bound word rfl)
        exact ⟨value, eval_of_leaf? bound⟩
  | neg operand ih =>
      refine ⟨fun ⟨_, found⟩ => List.forall_mem_cons.mpr ⟨sound_of_eval found, ?_⟩, fun sound => ?_⟩
      · obtain ⟨_, read, -⟩ := eval_neg_eq_ok_iff.mp found
        obtain ⟨inner, found, -⟩ := bind_eq_ok.mp read
        exact ih.mp ⟨inner, found⟩
      · obtain ⟨own, rest⟩ := List.forall_mem_cons.mp sound
        obtain ⟨_, found⟩ := ih.mpr rest
        exact exists_eval_neg found own
  | binary operator left right leftIH rightIH =>
      rw [parts, List.forall_mem_cons, List.forall_mem_append, ← leftIH, ← rightIH]
      constructor
      · rintro ⟨value, found⟩
        obtain ⟨_, first, _, second, -⟩ := eval_binary_eq_ok_iff.mp found
        obtain ⟨a, leftFound, -⟩ := bind_eq_ok.mp first
        obtain ⟨b, rightFound, -⟩ := bind_eq_ok.mp second
        exact ⟨sound_of_eval found, ⟨a, leftFound⟩, ⟨b, rightFound⟩⟩
      · rintro ⟨sound, ⟨_, leftFound⟩, ⟨_, rightFound⟩⟩
        exact exists_eval_binary leftFound rightFound sound
  | list items =>
      refine ⟨fun ⟨_, found⟩ => (by cases found), fun sound => ?_⟩
      exact absurd rfl ((sound _ (List.mem_singleton.mpr rfl)).single items)

/-- If an expression stands for an integer, all its parts do. -/
theorem exists_integer?_of_mem_parts {n : Int} {part : Expression}
    (exact : expression.integer? bindings = some n) (member : part ∈ expression.parts) :
    ∃ m, part.integer? bindings = some m := by
  induction expression using operand_induction generalizing n with
  | int word | text content | name word | list items =>
      cases List.mem_singleton.mp member
      exact ⟨n, exact⟩
  | neg operand ih =>
      rcases List.mem_cons.mp member with rfl | inner
      · exact ⟨n, exact⟩
      · obtain ⟨m, operandExact, -⟩ := Option.map_eq_some_iff.mp exact
        exact ih operandExact inner
  | binary operator left right leftIH rightIH =>
      rcases List.mem_cons.mp member with rfl | inner
      · exact ⟨n, exact⟩
      · obtain ⟨a, leftExact, rest⟩ := Option.bind_eq_some_iff.mp exact
        obtain ⟨b, rightExact, -⟩ := Option.bind_eq_some_iff.mp rest
        rcases List.mem_append.mp inner with inLeft | inRight
        · exact leftIH leftExact inLeft
        · exact rightIH rightExact inRight

end Expression

/-- Arithmetic is exact or refused. An integer that evaluation finds is the one that the expression
stands for over all integers, and so are the integers of all its parts, which fit in words. And
evaluation finds a value exactly if there is one expression, not a span, and nothing is wrong with
any part of it: no lists, no names without values, no texts in arithmetic that are no integers, no
zero divisors, no integers that fit in no word, and no remainder of the least word by `-1`. -/
theorem values_are_exact (bindings : Bindings) (body : Body) :
    (∀ n, body.eval bindings = .ok (.int n) → ∃ expression, body = .single expression ∧
      expression.integer? bindings = some n.toInt ∧
      ∀ part ∈ expression.parts, ∃ m, part.integer? bindings = some m ∧ Word.Fits m) ∧
    ((∃ value, body.eval bindings = .ok value) ↔ ∃ expression, body = .single expression ∧
      ∀ part ∈ expression.parts, part.Sound bindings) := by
  cases body with
  | span first last =>
      refine ⟨fun n found => (by cases found), fun ⟨_, found⟩ => (by cases found), ?_⟩
      rintro ⟨_, other, -⟩
      cases other
  | single expression =>
      refine ⟨fun n found => ⟨expression, rfl, ?_⟩, ?_⟩
      · have exact := Expression.integer?_of_eval found
        have sound := Expression.exists_eval_iff.mp ⟨_, found⟩
        refine ⟨exact, fun part member => ?_⟩
        obtain ⟨m, partExact⟩ := Expression.exists_integer?_of_mem_parts exact member
        exact ⟨m, partExact, (sound part member).fits m partExact⟩
      · refine Expression.exists_eval_iff.trans ⟨fun sound => ⟨expression, rfl, sound⟩, ?_⟩
        rintro ⟨_, same, sound⟩
        cases same
        exact sound

/-- The body `-(order % ' 4 ') + 2`. -/
private def turnedRemainder : Expression :=
  .binary .add (.neg (.binary .rem (.name "order") (.text " 4 "))) (.int 2)

private def order (value : Int64) : Bindings := fun name =>
  if name = "order" then some (.int value) else none

/-- Of `-7` the remainder is `-3`, and of the least word it is `0`. -/
theorem turned_remainders_are_exact :
    (turnedRemainder.integer? (order (-7)) = some 5 ∧
      ∀ part ∈ turnedRemainder.parts, ∃ m, part.integer? (order (-7)) = some m ∧ Word.Fits m) ∧
    ∀ part ∈ turnedRemainder.parts, part.Sound (order Int64.minValue) := by
  have computed : (Body.single turnedRemainder).eval (order (-7)) = .ok (.int 5) := by
    decide +kernel
  have least : (Body.single turnedRemainder).eval (order Int64.minValue) = .ok (.int 2) := by
    decide +kernel
  obtain ⟨_, same, exact, parts⟩ :=
    (values_are_exact (order (-7)) (.single turnedRemainder)).1 5 computed
  obtain ⟨_, sameLeast, sound⟩ :=
    (values_are_exact (order Int64.minValue) (.single turnedRemainder)).2.mp ⟨_, least⟩
  cases same
  cases sameLeast
  exact ⟨⟨exact, parts⟩, sound⟩

end Template

end Sharding
