/-!
# Ranges of code points

Character classes above ASCII are given as lists of code point ranges in increasing order.
-/

namespace ApiDoc.Text

/-- Whether a code point lies in one of the ranges, whose ends are included. -/
def inRanges (ranges : List (Nat × Nat)) (n : Nat) : Bool := ranges.any fun r => r.1 ≤ n && n ≤ r.2

end ApiDoc.Text
