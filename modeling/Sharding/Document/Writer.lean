import Sharding.Document

/-!
# Writing documents

Documents are written in JSON, either on one line without gaps or with every item on a line of
its own, two blanks deeper than its list or record.
-/

set_option autoImplicit false

namespace Sharding.Document

/-- The lower-case hexadecimal digit of a value below sixteen. -/
def hexDigit (n : Nat) : Char :=
  Nat.digitChar (n % 16)

/-- A character inside a quoted text: quotes, backslashes and control characters are escaped. -/
def escaped (c : Char) : String :=
  if c = '"' then "\\\""
  else if c = '\\' then "\\\\"
  else if c = '\x08' then "\\b"
  else if c = '\x0c' then "\\f"
  else if c = '\n' then "\\n"
  else if c = '\r' then "\\r"
  else if c = '\t' then "\\t"
  else if c.toNat < 0x20 then
    String.ofList ['\\', 'u', '0', '0', hexDigit (c.toNat / 16), hexDigit c.toNat]
  else String.singleton c

def quoted (text : String) : String :=
  "\"" ++ String.join (text.toList.map escaped) ++ "\""

mutual

def compact : Document → String
  | .null => "null"
  | .bool value => if value then "true" else "false"
  | .number value => value.written
  | .text value => quoted value
  | .list items => "[" ++ ",".intercalate (compactItems items) ++ "]"
  | .record fields => "\x7b" ++ ",".intercalate (compactFields fields) ++ "\x7d"

def compactItems : List Document → List String
  | [] => []
  | item :: rest => compact item :: compactItems rest

def compactFields : List (String × Document) → List String
  | [] => []
  | (name, value) :: rest => (quoted name ++ ":" ++ compact value) :: compactFields rest

end

def lineBreak (level : Nat) : String :=
  "\n" ++ String.ofList (List.replicate (2 * level) ' ')

/-- Entries between brackets, each on its own line one level deeper than the brackets. -/
def block (opening closing : String) (level : Nat) (entries : List String) : String :=
  if entries.isEmpty then opening ++ closing
  else
    let inner := lineBreak (level + 1)
    opening ++ inner ++ ("," ++ inner).intercalate entries ++ lineBreak level ++ closing

mutual

/-- A document over several lines, starting at a level of indentation. -/
def indented (level : Nat) : Document → String
  | .list items => block "[" "]" level (indentedItems (level + 1) items)
  | .record fields => block "\x7b" "\x7d" level (indentedFields (level + 1) fields)
  | .null => "null"
  | .bool value => if value then "true" else "false"
  | .number value => value.written
  | .text value => quoted value

def indentedItems (level : Nat) : List Document → List String
  | [] => []
  | item :: rest => indented level item :: indentedItems level rest

def indentedFields (level : Nat) : List (String × Document) → List String
  | [] => []
  | (name, value) :: rest =>
    (quoted name ++ ": " ++ indented level value) :: indentedFields level rest

end

def pretty (document : Document) : String :=
  indented 0 document

end Sharding.Document
