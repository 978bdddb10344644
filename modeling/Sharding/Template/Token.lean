import Sharding.Text.Blank
import Sharding.Text.Letter
import Sharding.Text.Quoted
import Sharding.Word.Decimal

/-!
# Tokens of placeholders

The tokens between the braces of a placeholder and the scanner that finds them. The scanner walks
over the characters once, with a state that holds the token it is in the middle of. A token ends
where the next character cannot continue it, so every token is as long as it can be.
-/

set_option autoImplicit false

namespace Sharding.Template

inductive Token where
  | int (value : Int64)
  | text (content : String)
  | name (name : String)
  | plus
  | minus
  | star
  | slash
  | percent
  | openParen
  | closeParen
  | openBracket
  | closeBracket
  | comma
  | dots
  deriving DecidableEq, Repr

namespace Token

def shown : Token → String
  | .int value => "Int(" ++ Word.text value ++ ")"
  | .text content => "Str(" ++ Text.quoted content ++ ")"
  | .name word => "Ident(" ++ Text.quoted word ++ ")"
  | .plus => "Plus"
  | .minus => "Minus"
  | .star => "Star"
  | .slash => "Slash"
  | .percent => "Percent"
  | .openParen => "LParen"
  | .closeParen => "RParen"
  | .openBracket => "LBracket"
  | .closeBracket => "RBracket"
  | .comma => "Comma"
  | .dots => "DotDot"

/-- The token at the front, or the end of the tokens, as messages show it. -/
def shownFront : Option Token → String
  | some token => token.shown
  | none => "Eof"

def ofChar? : Char → Option Token
  | '+' => some .plus
  | '-' => some .minus
  | '*' => some .star
  | '/' => some .slash
  | '%' => some .percent
  | '(' => some .openParen
  | ')' => some .closeParen
  | '[' => some .openBracket
  | ']' => some .closeBracket
  | ',' => some .comma
  | _ => none

end Token

inductive LexFault where
  /-- A point that is not half of two. Positions count characters from zero. -/
  | lonePoint (position : Nat)
  /-- A character that starts no token. -/
  | strayChar (c : Char)
  /-- A text without its closing quote. -/
  | openText
  /-- An integer that fits in no word. -/
  | largeInt (digits : String)
  deriving DecidableEq, Repr

def LexFault.message : LexFault → String
  | .lonePoint position => String.join ["unexpected '.' at position ", toString position]
  | .strayChar c => String.join ["unexpected character '", String.singleton c, "'"]
  | .openText => "unterminated string literal"
  | .largeInt digits => String.join ["integer literal ", digits, " is out of range"]

def startsName (c : Char) : Bool :=
  Text.isAlphabetic c || c = '_'

def continuesName (c : Char) : Bool :=
  Text.isAlphanumeric c || c = '_'

/-- What the scanner is in the middle of. Characters are held in reverse. -/
inductive Scan where
  | between
  | int (digits : List Char)
  | name (chars : List Char)
  | text (quote : Char) (chars : List Char)
  | point (position : Nat)
  deriving DecidableEq, Repr

namespace Scan

/-- The token that ends here, if the scanner is in the middle of one. -/
def finish : Scan → Except LexFault (List Token)
  | .between => .ok []
  | .int digits =>
    match Word.readDigits false 0 digits.reverse with
    | .ok value => .ok [.int (Int64.ofInt value)]
    | .error _ => .error (.largeInt (String.ofList digits.reverse))
  | .name chars => .ok [.name (String.ofList chars.reverse)]
  | .text _ _ => .error .openText
  | .point position => .error (.lonePoint position)

/-- The tokens and the state after a character between tokens. -/
def start (position : Nat) (c : Char) : Except LexFault (List Token × Scan) :=
  if Text.isBlank c then .ok ([], .between)
  else if c.isDigit then .ok ([], .int [c])
  else if startsName c then .ok ([], .name [c])
  else if c = '\'' || c = '"' then .ok ([], .text c [])
  else if c = '.' then .ok ([], .point position)
  else
    match Token.ofChar? c with
    | some token => .ok ([token], .between)
    | none => .error (.strayChar c)

/-- Ends the token before a character that cannot continue it. -/
def close (scan : Scan) (position : Nat) (c : Char) : Except LexFault (List Token × Scan) := do
  let ended ← scan.finish
  let (begun, next) ← start position c
  return (ended ++ begun, next)

/-- The tokens that a character completes and the state after it. -/
def step (scan : Scan) (position : Nat) (c : Char) : Except LexFault (List Token × Scan) :=
  match scan with
  | .between => start position c
  | .int digits => if c.isDigit then .ok ([], .int (c :: digits)) else close scan position c
  | .name chars => if continuesName c then .ok ([], .name (c :: chars)) else close scan position c
  | .text quote chars =>
    if c = quote then .ok ([.text (String.ofList chars.reverse)], .between)
    else .ok ([], .text quote (c :: chars))
  | .point begin =>
    if c = '.' then .ok ([.dots], .between) else .error (.lonePoint begin)

end Scan

/-- The tokens that the characters complete, with the scanner in the given state before them. -/
def tokensFrom : Scan → Nat → List Char → Except LexFault (List Token)
  | scan, _, [] => scan.finish
  | scan, position, c :: rest => do
    let (completed, next) ← scan.step position c
    let others ← tokensFrom next (position + 1) rest
    return completed ++ others

def tokenize (body : List Char) : Except LexFault (List Token) :=
  tokensFrom .between 0 body

end Sharding.Template
