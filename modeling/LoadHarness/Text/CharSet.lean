/-!
# Sets of characters

A set of characters is kept as the ascending code points at which membership changes, the
first of them entering the set. A code point belongs to the set exactly when an odd number
of changes lies at or before it.
-/

namespace LoadHarness

/-- A set of characters, given by the code points where membership changes. -/
structure CharSet where
  edges : List Nat

namespace CharSet

/-- Whether a character belongs to the set. -/
def contains (s : CharSet) (c : Char) : Bool := s.edges.countP (· ≤ c.toNat) % 2 == 1

end CharSet

end LoadHarness
