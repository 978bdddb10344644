import Sharding.Template.Token

/-!
# Expressions of placeholders

What a placeholder stands for, and its values. Arithmetic is exact on words: division truncates
toward zero, the remainder has the sign of the dividend, and a result that fits in no word is a
fault. Texts take part in arithmetic if they read as words.
-/

set_option autoImplicit false

namespace Sharding.Template

inductive Scalar where
  | int (value : Int64)
  | text (content : String)
  deriving DecidableEq, Repr

def Scalar.shown : Scalar → String
  | .int value => Word.text value
  | .text content => content

inductive Operator where
  | add
  | sub
  | mul
  | div
  | rem
  deriving DecidableEq, Repr

inductive Expression where
  | int (value : Int64)
  | text (content : String)
  | name (name : String)
  | neg (operand : Expression)
  | binary (operator : Operator) (left right : Expression)
  | list (items : List Expression)
  deriving Repr

/-- The body of a placeholder. A span from one bound to another is never part of an
expression. -/
inductive Body where
  | single (expression : Expression)
  | span (first last : Expression)
  deriving Repr

inductive EvalFault where
  /-- A name without a value. -/
  | unbound (name : String)
  /-- An exact result that fits in no word. -/
  | overflow
  /-- A division or remainder by zero. -/
  | zeroDivisor
  /-- A text in arithmetic that reads as no word. -/
  | notInteger (content : String)
  /-- A list or a span where a single value is needed. -/
  | manyValues
  deriving DecidableEq, Repr

def EvalFault.message : EvalFault → String
  | .unbound word => String.join ["no value bound to '", word, "'"]
  | .overflow => "integer overflow"
  | .zeroDivisor => "division by zero"
  | .notInteger content => String.join ["'", content, "' is not an integer"]
  | .manyValues => "ranges and lists are only allowed in data node patterns"

/-- The word a value reads as. Blank margins of a text do not count. -/
def Scalar.toInt : Scalar → Except EvalFault Int64
  | .int value => .ok value
  | .text content =>
    match Word.parse? (Text.trim content) with
    | some value => .ok value
    | none => .error (.notInteger content)

/-- A result that fits in a word, or the fault of one that does not. -/
def ofWord? : Option Int64 → Except EvalFault Int64
  | some value => .ok value
  | none => .error .overflow

def Operator.apply (operator : Operator) (a b : Int64) : Except EvalFault Int64 :=
  match operator with
  | .add => ofWord? (Word.add? a b)
  | .sub => ofWord? (Word.sub? a b)
  | .mul => ofWord? (Word.mul? a b)
  | .div => if b = 0 then .error .zeroDivisor else ofWord? (Word.div? a b)
  | .rem => if b = 0 then .error .zeroDivisor else ofWord? (Word.rem? a b)

/-- The values of names. -/
abbrev Bindings : Type := String → Option Scalar

def unbound : Bindings := fun _ => none

def Expression.eval (bindings : Bindings) : Expression → Except EvalFault Scalar
  | .int value => .ok (.int value)
  | .text content => .ok (.text content)
  | .name word =>
    match bindings word with
    | some value => .ok value
    | none => .error (.unbound word)
  | .neg operand => do
    let a ← (← operand.eval bindings).toInt
    return .int (← ofWord? (Word.neg? a))
  | .binary operator left right => do
    let a ← (← left.eval bindings).toInt
    let b ← (← right.eval bindings).toInt
    return .int (← operator.apply a b)
  | .list _ => .error .manyValues

def Body.eval (bindings : Bindings) : Body → Except EvalFault Scalar
  | .single expression => expression.eval bindings
  | .span _ _ => .error .manyValues

end Sharding.Template
