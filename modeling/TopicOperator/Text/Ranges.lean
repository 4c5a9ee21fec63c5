/-!
# Ranges of characters

Sets of characters that are written out as ranges of code points in ascending order.
-/

namespace TopicOperator.Text

/-- Whether a code point lies in one of the ranges. -/
def inRanges (ranges : List (Nat × Nat)) (n : Nat) : Bool :=
  ranges.any fun (first, last) => first ≤ n && n ≤ last

end TopicOperator.Text
