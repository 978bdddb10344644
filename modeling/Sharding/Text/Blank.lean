/-!
# Blank characters

The characters with the White_Space property, and the removal of a blank margin at both ends
of a text.
-/

set_option autoImplicit false

namespace Sharding.Text

/-- The White_Space property: ASCII blanks, the next-line control and the spaces and separators
beyond ASCII. -/
def isBlank (c : Char) : Bool :=
  let n := c.val.toNat
  (9 ≤ n && n ≤ 13) || n == 0x20 || n == 0x85 || n == 0xA0 || n == 0x1680 ||
    (0x2000 ≤ n && n ≤ 0x200A) || n == 0x2028 || n == 0x2029 || n == 0x202F || n == 0x205F ||
    n == 0x3000

/-- The characters without the blanks before the first and after the last other one. -/
def trimChars (chars : List Char) : List Char :=
  ((chars.dropWhile isBlank).reverse.dropWhile isBlank).reverse

def trim (text : String) : String :=
  String.ofList (trimChars text.toList)

def isBlankText (text : String) : Bool :=
  text.toList.all isBlank

end Sharding.Text
