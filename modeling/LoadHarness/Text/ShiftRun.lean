/-!
# Runs of characters that move alike

Many maps of characters move a run of equally spaced code points by one distance.
-/

namespace LoadHarness

/-- Code points from `first` to `last`, every `stride`-th one, that move by `shift`. -/
structure ShiftRun where
  first : Nat
  last : Nat
  stride : Nat
  shift : Int

namespace ShiftRun

/-- Whether a code point belongs to the run. -/
def covers (r : ShiftRun) (n : Nat) : Bool :=
  r.first ≤ n && n ≤ r.last && (n - r.first) % r.stride == 0

/-- Moves a character by the first run that it belongs to. -/
def move? (runs : List ShiftRun) (c : Char) : Option Char :=
  (runs.find? (·.covers c.toNat)).map fun r => Char.ofNat ((c.toNat : Int) + r.shift).toNat

end ShiftRun

end LoadHarness
