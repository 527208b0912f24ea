/-!
# Ranges of code points

A property of characters that is not given by a rule is given by the list of the ranges of
code points that have it.
-/

namespace RouteTypes.Text

/-- A code point lies in one of the ranges, ends included. -/
def inRanges (ranges : List (Nat × Nat)) (code : Nat) : Bool :=
  ranges.any fun range => range.1 ≤ code && code ≤ range.2

end RouteTypes.Text
