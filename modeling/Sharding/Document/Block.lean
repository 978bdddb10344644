import Sharding.Document.TextStyle

/-!
# Block documents

The layout by lines: every field on a line of its own as `key: value`, nested records two blanks
deeper, the items of a list behind dashes at the depth of their key. A key too long for that is
set apart by a question mark. Empty records and lists are written as brackets.
-/

set_option autoImplicit false

namespace Sharding.Document

def margin (depth : Nat) : String :=
  String.ofList (List.replicate depth ' ')

/-- The entries of a list or record one below the other, the first one where the line stands. -/
def stacked (depth : Nat) (entries : List String) : String :=
  (margin depth).intercalate entries

def maxKeySize : Nat := 128

def isShortKey (key : String) : Bool :=
  key.utf8ByteSize ≤ maxKeySize && !key.toList.any TextStyle.isLineEnd

/-- A document that is no list and no record with entries, at a depth. -/
def scalarText (depth : Nat) : Document → String
  | .null => "null"
  | .bool value => if value then "true" else "false"
  | .number value => value.written
  | .text value => styled (List.replicate (depth + 2) ' ') value
  | .list _ => "[]"
  | .record _ => "\x7b\x7d"

mutual

/-- The lines of a document behind a key or a dash at a depth. A list behind a key is no deeper
than the key. -/
def blockValue (depth : Nat) : Document → String
  | .record (field :: fields) =>
    "\n" ++ margin (depth + 2) ++ stacked (depth + 2) (blockFields (depth + 2) (field :: fields))
  | .list (item :: items) =>
    "\n" ++ margin depth ++ stacked depth (blockItems depth (item :: items))
  | scalar => " " ++ closeLine (scalarText depth scalar)

/-- The lines of a document that starts on the line of a dash or a question mark. -/
def blockInline (depth : Nat) : Document → String
  | .record (field :: fields) =>
    " " ++ stacked (depth + 2) (blockFields (depth + 2) (field :: fields))
  | .list (item :: items) => " " ++ stacked (depth + 2) (blockItems (depth + 2) (item :: items))
  | scalar => " " ++ closeLine (scalarText depth scalar)

def blockItems (depth : Nat) : List Document → List String
  | [] => []
  | item :: rest => ("-" ++ blockInline depth item) :: blockItems depth rest

def blockFields (depth : Nat) : List (String × Document) → List String
  | [] => []
  | (key, value) :: rest =>
    let name := styled (List.replicate (depth + 2) ' ') key
    let entry :=
      if isShortKey key then name ++ ":" ++ blockValue depth value
      else "? " ++ closeLine name ++ margin depth ++ ":" ++ blockInline depth value
    entry :: blockFields depth rest

end

def blockText : Document → String
  | .record (field :: fields) => stacked 0 (blockFields 0 (field :: fields))
  | .list (item :: items) => stacked 0 (blockItems 0 (item :: items))
  | scalar => closeLine (scalarText 0 scalar)

end Sharding.Document
