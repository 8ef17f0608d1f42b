/-! Sets of characters as ranges of code points.
-/

namespace CallWatch.Text

/-- Ranges of code points, both ends included, in ascending order. -/
abbrev Ranges := List (Nat × Nat)

def Ranges.cover (ranges : Ranges) (c : Char) : Bool :=
  ranges.any fun (first, last) => first ≤ c.toNat && c.toNat ≤ last

end CallWatch.Text
