import Sharding.Document.Writer

/-!
# Documents in files

A file holds a document as text, with its keys and texts between double quotes. Some characters
end a line there: the text goes on in the next line, and the blanks around the end of the line do
not count. Other characters no file may hold, and a key stands on one line.
-/

set_option autoImplicit false

namespace Sharding.Document

/-- The characters that a file may hold between quotes. Controls of ASCII but the last are written
as escapes. -/
def isAllowed (c : Char) : Bool :=
  let n := c.toNat
  n < 0x7F || n = 0x85 || (0xA0 ≤ n && n ≠ 0xFFFE && n ≠ 0xFFFF)

/-- The characters that end a line between quotes. Those of ASCII are written as escapes. -/
def endsLine (c : Char) : Bool :=
  c = '\u0085' || c = '\u2028' || c = '\u2029'

/-- The end of a line that is kept. Separators of lines and paragraphs stay what they are. -/
def keptEnd (c : Char) : Char :=
  if c = '\u0085' then '\n' else c

/-- What a run of blanks and line ends is read as. Blanks alone stay. The end of one line counts as
a blank, and of the ends of several lines the first does not count, unless it is a separator. -/
def foldRun (run : List Char) : List Char :=
  match run.filter endsLine with
  | [] => run
  | first :: others =>
    if first = '\u0085' then (if others.isEmpty then [' '] else others.map keptEnd)
    else first :: others.map keptEnd

/-- The characters that a quoted text is read as. The blanks and line ends just before are held
in reverse. -/
def foldLines (run : List Char) : List Char → List Char
  | [] => foldRun run.reverse
  | c :: rest =>
    if c = ' ' || endsLine c then foldLines (c :: run) rest
    else foldRun run.reverse ++ c :: foldLines [] rest

/-- The mark that starts or ends a document, on a line of its own. -/
def isDocumentMark (chars : List Char) : Bool :=
  (['-', '-', '-'].isPrefixOf chars || ['.', '.', '.'].isPrefixOf chars) &&
    (chars.drop 3).head?.any fun c => c = ' ' || endsLine c

/-- Some line but the first starts with the mark of a document. -/
def hasDocumentMark : List Char → Bool
  | [] => false
  | c :: rest => (endsLine c && isDocumentMark rest) || hasDocumentMark rest

def foldText? (text : String) : Option String :=
  let chars := text.toList
  if chars.all isAllowed && !hasDocumentMark chars then some (String.ofList (foldLines [] chars))
  else none

def maxQuotedKey : Nat := 1024

/-- The key that a quoted key is read as, which is the same. -/
def foldKey? (key : String) : Option String :=
  let writable := key.toList.all fun c => isAllowed c && !endsLine c
  if writable && (quoted key).utf8ByteSize ≤ maxQuotedKey then some key else none

mutual

/-- The document that is read from a file that holds a document. -/
def fold? : Document → Option Document
  | .text content => (foldText? content).map .text
  | .list items => (foldItems? items).map .list
  | .record fields => (foldFields? fields).map .record
  | .null => some .null
  | .bool value => some (.bool value)
  | .number value => some (.number value)

def foldItems? : List Document → Option (List Document)
  | [] => some []
  | item :: rest => do return (← fold? item) :: (← foldItems? rest)

def foldFields? : List (String × Document) → Option (List (String × Document))
  | [] => some []
  | (key, value) :: rest => do
    return (← foldKey? key, ← fold? value) :: (← foldFields? rest)

end

end Sharding.Document
