/-!
# Ranges of code points

Classes of characters are given as ranges of code points.
-/

namespace Strata.Text

/-- Whether a character lies in one of the ranges. Both ends of a range belong to it. -/
def inRanges (ranges : List (Nat × Nat)) (c : Char) : Bool :=
  ranges.any fun r => decide (r.1 ≤ c.toNat) && decide (c.toNat ≤ r.2)

end Strata.Text
