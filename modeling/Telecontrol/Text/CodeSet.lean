/-!
# Sets of code points

Properties of characters are given by ranges of code points.

* `CodeSet`: closed ranges; `CodeSet.contains` tells whether a character lies in one of them.
-/

namespace Telecontrol.Text

/-- A set of code points as closed ranges. -/
structure CodeSet where
  ranges : List (Nat × Nat)

namespace CodeSet

def contains (s : CodeSet) (c : Char) : Bool :=
  s.ranges.any fun (low, high) => decide (low ≤ c.toNat) && decide (c.toNat ≤ high)

end CodeSet

end Telecontrol.Text
