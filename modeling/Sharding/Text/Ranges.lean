/-!
# Ranges of code points

Tables of character properties are lists of inclusive ranges.
-/

set_option autoImplicit false

namespace Sharding.Text

def inRanges (ranges : List (Nat × Nat)) (n : Nat) : Bool :=
  ranges.any fun range => range.1 ≤ n && n ≤ range.2

end Sharding.Text
