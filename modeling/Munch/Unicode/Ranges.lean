/-!
# Tables of code points

A property of characters is given as a list of closed ranges of code points.
-/

namespace Munch.Unicode

/-- Whether a character's code point lies in one of the ranges. -/
def inRanges (ranges : List (Nat × Nat)) (char : Char) : Bool :=
  ranges.any fun range => range.1 ≤ char.toNat && char.toNat ≤ range.2

end Munch.Unicode
