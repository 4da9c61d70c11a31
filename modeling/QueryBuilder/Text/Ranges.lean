/-!
# Tables of character ranges

A class of characters is a list of ranges of code points; `inRanges` looks a code point up.
-/

namespace QueryBuilder.Text

/-- A code point lies in one of the ranges, both ends included. -/
def inRanges (ranges : List (Nat × Nat)) (n : Nat) : Bool :=
  ranges.any fun (low, high) => low ≤ n && n ≤ high

end QueryBuilder.Text
