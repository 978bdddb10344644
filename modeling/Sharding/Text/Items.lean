import Sharding.Text.Blank

/-!
# Lists in texts

Lists of names and of patterns are written with commas between the items. A comma inside brackets
of any kind belongs to its item. Brackets in quoted texts count like all others.
-/

set_option autoImplicit false

namespace Sharding.Text

def isOpening (c : Char) : Bool :=
  c = '\x7b' || c = '[' || c = '('

def isClosing (c : Char) : Bool :=
  c = '\x7d' || c = ']' || c = ')'

/-- The number of open brackets after a character. A bracket that closes nothing changes
nothing, and kinds of brackets are not told apart. -/
def depthAfter (depth : Nat) (c : Char) : Nat :=
  if isOpening c then depth + 1 else if isClosing c then depth - 1 else depth

/-- The parts between the commas at depth zero. The characters of the part in progress are held
in reverse. -/
def cutItems : Nat → List Char → List Char → List (List Char)
  | _, part, [] => [part.reverse]
  | depth, part, c :: rest =>
    if c = ',' && depth = 0 then part.reverse :: cutItems 0 [] rest
    else cutItems (depthAfter depth c) (c :: part) rest

/-- The items of a text, without their blank margins. Blank items are dropped. -/
def items (text : String) : List String :=
  (((cutItems 0 [] text.toList).map trimChars).filter fun part => !part.isEmpty).map String.ofList

end Sharding.Text
