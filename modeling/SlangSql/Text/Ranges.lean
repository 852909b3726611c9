/-!
# Ranges of code points

A property of characters is given by the ranges of the code points that have it,
each by its first and last code point, in ascending order.
-/

set_option autoImplicit false

namespace SlangSql.Text

def inRanges (ranges : List (Nat × Nat)) (n : Nat) : Bool :=
  ranges.any fun r => decide (r.1 ≤ n) && decide (n ≤ r.2)

end SlangSql.Text
