/-!
# Ranges of code points

A property of characters is a list of closed ranges of code points.
-/

namespace SqlCommands.Unicode

/-- Whether a character lies in one of the ranges. -/
def inRanges (ranges : List (Nat × Nat)) (c : Char) : Bool :=
  ranges.any fun r => decide (r.1 ≤ c.toNat) && decide (c.toNat ≤ r.2)

end SqlCommands.Unicode
