/-!
# Character ranges

A property of characters is a list of ranges of code points, ends included.
-/

set_option autoImplicit false

namespace DocumentStore

/-- Ranges of code points, ends included. -/
abbrev CharRanges := List (Nat × Nat)

/-- Whether a character lies in one of the ranges. -/
def CharRanges.contains (ranges : CharRanges) (c : Char) : Bool :=
  ranges.any (fun (low, high) => decide (low ≤ c.toNat) && decide (c.toNat ≤ high))

end DocumentStore
