import LoadHarness.Binary64.Basic
import LoadHarness.Word

/-!
# Durations

A duration is a whole number of nanoseconds. Configured durations have a count of whole
seconds below `2 ^ 64`; durations that arise in a run are sums and differences of those.
-/

namespace LoadHarness

/-- A length of time in nanoseconds. -/
structure Duration where
  nanos : Nat
  deriving DecidableEq, Inhabited

namespace Duration

def zero : Duration := ⟨0⟩

def nanosPerSecond : Nat := 1000000000

def nanosPerMilli : Nat := 1000000

def ofSeconds (n : Nat) : Duration := ⟨n * nanosPerSecond⟩

def ofMillis (n : Nat) : Duration := ⟨n * nanosPerMilli⟩

/-- The duration of whole seconds and a rest of nanoseconds. -/
def ofParts (seconds nanos : Nat) : Duration := ⟨seconds * nanosPerSecond + nanos⟩

/-- Whole seconds. -/
def seconds (d : Duration) : Nat := d.nanos / nanosPerSecond

/-- Nanoseconds beyond the whole seconds. -/
def subsecond (d : Duration) : Nat := d.nanos % nanosPerSecond

/-- Whole microseconds. -/
def micros (d : Duration) : Nat := d.nanos / 1000

/-- Whole milliseconds. -/
def millis (d : Duration) : Nat := d.nanos / nanosPerMilli

/-- The seconds as a number: whole seconds and the rest are converted apart and added. -/
def toSeconds (d : Duration) : Binary64 :=
  Binary64.ofNat d.seconds + Binary64.ofNat d.subsecond / Binary64.ofNat nanosPerSecond

/-- The longest duration that can be configured. -/
def longest : Duration := ofParts (Word.bound64 - 1) (nanosPerSecond - 1)

def add (a b : Duration) : Duration := ⟨a.nanos + b.nanos⟩

instance : Add Duration := ⟨add⟩

theorem ofParts_seconds_subsecond (d : Duration) : ofParts d.seconds d.subsecond = d := by
  simp only [ofParts, seconds, subsecond, Nat.div_add_mod']

end Duration

end LoadHarness
