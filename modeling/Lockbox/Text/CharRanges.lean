/-!
# Sets of characters given by ranges

A property of code points is written down as a list of closed ranges.
-/

namespace Lockbox.Text

/-- Closed ranges of code points. -/
abbrev CharRanges := List (Nat × Nat)

def CharRanges.contains (ranges : CharRanges) (c : Char) : Bool :=
  ranges.any fun r => r.1 ≤ c.toNat && c.toNat ≤ r.2

end Lockbox.Text
