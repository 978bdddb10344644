import Sharding.Template.Grammar

/-!
# Templates

Texts with placeholders, each written as a body between `$` and braces or between `$->` and
braces. With values for its names a template evaluates to one name. Without names it expands to
every combination of its placeholders' values, the leftmost placeholder varying slowest.
-/

set_option autoImplicit false

namespace Sharding

namespace Template

/-- Why a template is refused, or has no value or no expansion. -/
inductive Fault where
  | lexical (fault : LexFault)
  | grammar (fault : GrammarFault)
  | evaluation (fault : EvalFault)
  /-- A placeholder without its closing brace. -/
  | unclosed
  /-- A span of at least `limit` values. -/
  | longSpan (first last : Int64) (limit : Nat)
  /-- More than `limit` combinations. -/
  | manyNames (limit : Nat)
  /-- A pattern without data nodes. -/
  | noNodes
  /-- A fault that someone else found. -/
  | reported (text : String)
  deriving DecidableEq, Repr

def Fault.message : Fault → String
  | .lexical fault => fault.message
  | .grammar fault => fault.message
  | .evaluation fault => fault.message
  | .unclosed => "unterminated placeholder"
  | .longSpan first last limit =>
    String.join ["range ", Word.text first, "..", Word.text last, " holds more than ",
      toString limit, " values"]
  | .manyNames limit => String.join ["expands to more than ", toString limit, " names"]
  | .noNodes => "expands to no data nodes"
  | .reported text => text

inductive Piece where
  | literal (chars : List Char)
  | body (chars : List Char)
  /-- An opened placeholder that no brace closes. -/
  | unclosed
  deriving DecidableEq, Repr

def Piece.literals (reversed : List Char) : List Piece :=
  if reversed.isEmpty then [] else [.literal reversed.reverse]

/-- Cuts the characters at the signs that open and close placeholders. The characters of the
piece in progress are held in reverse; `inside` tells whether it is a body. -/
def cut (inside : Bool) (before : List Char) : List Char → List Piece
  | [] => if inside then [.unclosed] else Piece.literals before
  | c :: rest =>
    if inside then
      if c = '\x7d' then .body before.reverse :: cut false [] rest
      else cut true (c :: before) rest
    else
      match c, rest with
      | '$', '\x7b' :: rest => Piece.literals before ++ cut true [] rest
      | '$', '-' :: '>' :: '\x7b' :: rest => Piece.literals before ++ cut true [] rest
      | c, rest => cut false (c :: before) rest

inductive Part where
  | literal (content : String)
  | placeholder (body : Body)
  deriving Repr

def Body.parse (chars : List Char) : Except Fault Body :=
  match tokenize chars with
  | .error fault => .error (.lexical fault)
  | .ok tokens =>
    match parseBody tokens with
    | .error fault => .error (.grammar fault)
    | .ok body => .ok body

def Part.ofPiece : Piece → Except Fault Part
  | .literal chars => .ok (.literal (String.ofList chars))
  | .body chars => (Body.parse chars).map .placeholder
  | .unclosed => .error .unclosed

end Template

/-- A template: the text it was written as and its parts in order. -/
structure Template where
  source : String
  parts : List Template.Part
  deriving Repr

namespace Template

/-- Reads a template. The first part that is at fault decides. -/
def parse (source : String) : Except Fault Template := do
  return { source, parts := ← (cut false [] source.toList).mapM Part.ofPiece }

def Part.evaluate (bindings : Bindings) : Part → Except Fault String
  | .literal content => .ok content
  | .placeholder body =>
    match body.eval bindings with
    | .ok value => .ok value.shown
    | .error fault => .error (.evaluation fault)

/-- The name that a template stands for with values for its names. -/
def evaluate (template : Template) (bindings : Bindings) : Except Fault String := do
  return String.join (← template.parts.mapM (Part.evaluate bindings))

/-! ## Expansion -/

def maxNames : Nat := 100000

/-- The words from one to another, both included, in the direction written. -/
def countFrom (first last : Int64) : List Int64 :=
  let distance := (last.toInt - first.toInt).natAbs
  (List.range (distance + 1)).map fun (step : Nat) =>
    Int64.ofInt (if first ≤ last then first.toInt + step else first.toInt - step)

def Expression.bound (expression : Expression) : Except Fault Int64 :=
  match (expression.eval unbound).bind Scalar.toInt with
  | .ok value => .ok value
  | .error fault => .error (.evaluation fault)

def Expression.constant (expression : Expression) : Except Fault Scalar :=
  match expression.eval unbound with
  | .ok value => .ok value
  | .error fault => .error (.evaluation fault)

/-- All values that a body without names stands for: the words of a span, the items of a list or
the single value. A span of `limit` values or more is refused. -/
def Body.enumerate (limit : Nat) : Body → Except Fault (List Scalar)
  | .span first last => do
    let a ← first.bound
    let b ← last.bound
    if limit ≤ (b.toInt - a.toInt).natAbs then .error (.longSpan a b limit)
    else return (countFrom a b).map .int
  | .single (.list items) => items.mapM Expression.constant
  | .single expression => do return [← expression.constant]

/-- Every name followed by every value, the names varying slowest. -/
def combine (names : List String) (values : List Scalar) : List String :=
  names.flatMap fun name => values.map fun value => name ++ value.shown

/-- The names so far, each continued by a part in every way. -/
def Part.extend (names : List String) : Part → Except Fault (List String)
  | .literal content => .ok (names.map (· ++ content))
  | .placeholder body => do
    let values ← body.enumerate maxNames
    if maxNames < names.length * values.length then .error (.manyNames maxNames)
    else return combine names values

/-- The names that a template without names in its placeholders stands for. -/
def expand (template : Template) : Except Fault (List String) :=
  template.parts.foldlM Part.extend [""]

end Template

end Sharding
