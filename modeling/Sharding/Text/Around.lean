/-!
# Texts around a mark

The two texts on the sides of the first occurrence of a mark.
-/

set_option autoImplicit false

namespace Sharding.Text

/-- The characters before and after the first occurrence of a mark, which is not empty. -/
def charsAround? (mark : List Char) : List Char → Option (List Char × List Char)
  | [] => none
  | c :: rest =>
    if mark.isPrefixOf (c :: rest) then some ([], (c :: rest).drop mark.length)
    else (charsAround? mark rest).map fun (before, after) => (c :: before, after)

/-- The texts before and after the first occurrence of a mark. -/
def around? (mark text : String) : Option (String × String) :=
  (charsAround? mark.toList text.toList).map fun (before, after) =>
    (String.ofList before, String.ofList after)

end Sharding.Text
