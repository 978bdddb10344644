import Sharding.Text.Shape

/-!
# Quoted texts in messages

How messages show a text between double quotes: quotes, backslashes and blanks other than the
plain one are escaped, and so is every character that has no shape of its own.
-/

set_option autoImplicit false

namespace Sharding.Text

def shown (c : Char) : String :=
  if c = '"' then "\\\""
  else if c = '\\' then "\\\\"
  else if c = '\t' then "\\t"
  else if c = '\n' then "\\n"
  else if c = '\r' then "\\r"
  else if c.toNat = 0 then "\\0"
  else if isShapeless c then
    "\\u\x7b" ++ String.ofList (Nat.toDigits 16 c.toNat) ++ "\x7d"
  else String.singleton c

def quoted (text : String) : String :=
  "\"" ++ String.join (text.toList.map shown) ++ "\""

end Sharding.Text
