/-!
# Ranges of code points

Properties of characters are given as lists of ranges in increasing order. `inRanges` looks a
code point up in such a list.
-/

namespace LetFn.Text

/-- The number lies in one of the ranges, which are in increasing order: the first range that
begins above the number ends the search. -/
def inRanges (n : Nat) : List (Nat × Nat) → Bool
  | [] => false
  | (low, high) :: ranges => low ≤ n && (n ≤ high || inRanges n ranges)

end LetFn.Text
