import Sharding.Document.Scalar
import Sharding.Document.Writer

/-!
# Texts in block documents

A text stands bare in a block document unless it could be mistaken for another scalar or for part
of the layout. Otherwise it stands between single quotes, or between double quotes with escapes if
it has characters that cannot be shown. A text with line breaks is written line by line.
-/

set_option autoImplicit false

namespace Sharding.Document

inductive TextStyle where
  | bare
  | singleQuoted
  | doubleQuoted
  /-- Line by line below its key. -/
  | literal
  deriving DecidableEq, Repr

namespace TextStyle

/-- The characters that end a line. -/
def isLineEnd (c : Char) : Bool :=
  c = '\n' || c = '\r' || c = '\u0085' || c = '\u2028' || c = '\u2029'

/-- The end of a text, a gap inside a line, or the end of a line. -/
def isGap : Option Char → Bool
  | none => true
  | some c => c = ' ' || c = '\t' || c = '\x00' || isLineEnd c

def isShown (c : Char) : Bool :=
  let n := c.toNat
  n = 0x0A || (0x20 ≤ n && n ≤ 0x7E) || (0xA0 ≤ n && n ≠ 0xFEFF && n ≠ 0xFFFE && n ≠ 0xFFFF)

/-- The characters that mean layout at the start of a scalar. -/
def opensLayout (c : Char) : Bool :=
  "#,[]\x7b\x7d&*!|>'\"%@\x60".toList.contains c

/-- A colon before a gap or a hash after one, in the characters after the given one. -/
def hasLayout (before : Char) : List Char → Bool
  | [] => false
  | c :: rest =>
    (c = ':' && isGap rest.head?) || (c = '#' && isGap (some before)) || hasLayout c rest

def isLayout (chars : List Char) : Bool :=
  match chars with
  | [] => false
  | first :: rest =>
    ['-', '-', '-'].isPrefixOf chars || ['.', '.', '.'].isPrefixOf chars || opensLayout first ||
      ((first = '-' || first = '?' || first = ':') && isGap rest.head?) || hasLayout first rest

/-- The first character is one of a kind and the second one of another, somewhere side by side. -/
def hasPair (left right : Char → Bool) : List Char → Bool
  | a :: b :: rest => (left a && right b) || hasPair left right (b :: rest)
  | _ => false

def isBlank (c : Char) : Bool := c = ' '

/-- A character that neither quotes nor lines can hold, or a blank that ends a line. -/
def needsEscapes (chars : List Char) : Bool :=
  chars.any (fun c => !isShown c) || hasPair isBlank isLineEnd chars

def fitsQuotes (chars : List Char) : Bool :=
  !needsEscapes chars && !hasPair isLineEnd isBlank chars

def fitsLines (chars : List Char) : Bool :=
  !needsEscapes chars && !chars.isEmpty && chars.getLast? ≠ some ' '

def fitsBare (chars : List Char) : Bool :=
  fitsQuotes chars && !chars.any isLineEnd && chars.head? ≠ some ' ' &&
    chars.getLast? ≠ some ' ' && !isLayout chars

def of (text : String) : TextStyle :=
  let chars := text.toList
  if chars.contains '\n' then if fitsLines chars then .literal else .doubleQuoted
  else if fitsBare chars && !Scalar.isMistaken text then .bare
  else if fitsQuotes chars then .singleQuoted
  else .doubleQuoted

end TextStyle

/-- The upper-case hexadecimal digits of a number, `count` of them. -/
def hexDigits : Nat → Nat → List Char
  | 0, _ => []
  | count + 1, n => hexDigits count (n / 16) ++ [(Nat.digitChar (n % 16)).toUpper]

def escapedChar (c : Char) : List Char :=
  let n := c.toNat
  if c = '\x00' then ['\\', '0']
  else if n = 0x07 then ['\\', 'a']
  else if n = 0x08 then ['\\', 'b']
  else if c = '\t' then ['\\', 't']
  else if c = '\n' then ['\\', 'n']
  else if n = 0x0B then ['\\', 'v']
  else if n = 0x0C then ['\\', 'f']
  else if c = '\r' then ['\\', 'r']
  else if n = 0x1B then ['\\', 'e']
  else if c = '"' then ['\\', '"']
  else if c = '\\' then ['\\', '\\']
  else if n = 0x85 then ['\\', 'N']
  else if n = 0x2028 then ['\\', 'L']
  else if n = 0x2029 then ['\\', 'P']
  else if TextStyle.isShown c then [c]
  else if n ≤ 0xFF then '\\' :: 'x' :: hexDigits 2 n
  else if n ≤ 0xFFFF then '\\' :: 'u' :: hexDigits 4 n
  else '\\' :: 'U' :: hexDigits 8 n

/-- The characters with a margin at the start of every line but the first that is not empty. -/
def indentLines (margin : List Char) : List Char → List Char
  | a :: b :: rest =>
    if TextStyle.isLineEnd a && !TextStyle.isLineEnd b then
      a :: margin ++ indentLines margin (b :: rest)
    else a :: indentLines margin (b :: rest)
  | chars => chars

/-- What stands behind the bar of a text in lines: the depth of its margin if it starts with a
gap, then a minus if its last line does not end, or a plus if an empty line ends it. -/
def literalHints (chars : List Char) : List Char :=
  let start := match chars.head? with
    | some c => if c = ' ' || TextStyle.isLineEnd c then ['2'] else []
    | none => []
  let stop := match chars.reverse with
    | [] => ['-']
    | [only] => if TextStyle.isLineEnd only then ['+'] else ['-']
    | last :: before :: _ =>
      if !TextStyle.isLineEnd last then ['-']
      else if TextStyle.isLineEnd before then ['+']
      else []
  start ++ stop

/-- A text in its style; its own lines have the given margin. -/
def styled (margin : List Char) (text : String) : String :=
  let chars := text.toList
  match TextStyle.of text with
  | .bare => text
  | .singleQuoted =>
    let doubled := chars.flatMap fun c => if c = '\'' then ['\'', '\''] else [c]
    String.ofList ('\'' :: indentLines margin (doubled ++ ['\'']))
  | .doubleQuoted => String.ofList ('"' :: chars.flatMap escapedChar ++ ['"'])
  | .literal =>
    let start := if chars.head?.any TextStyle.isLineEnd then [] else margin
    String.ofList ('|' :: literalHints chars ++ '\n' :: start ++ indentLines margin chars)

def closeLine (text : String) : String :=
  if text.toList.getLast?.any TextStyle.isLineEnd then text else text ++ "\n"

end Sharding.Document
