import LoadHarness.Duration
import LoadHarness.Word

/-!
# Recordings

Everything a run tells its metrics, as data. A run is a list of recordings, and every series
is a fold over that list.
-/

namespace LoadHarness

/-- One thing that a run reports to its metrics. -/
inductive Recording where
  /-- A finished exchange; status zero stands for a failure to exchange at all. -/
  | request (step : String) (status expected : Nat) (latency : Duration)
  | check (name : String) (passed : Bool)
  | step (step : String) (failed : Bool)
  | iteration (completed : Bool)
  /-- Starts that found every worker busy. -/
  | dropped (count : Nat)
  | active (workers : Nat)
  | allocated (workers : Nat)

/-- Counters hold 64 binary digits and start again from zero. -/
def counterModulus : Nat := Word.bound64

end LoadHarness
