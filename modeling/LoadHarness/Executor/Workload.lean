import LoadHarness.Executor.Pool
import LoadHarness.Duration

/-!
# Workloads

What an executor runs: iterations that act on a world and wait in between. Nothing is assumed
of an iteration. It may wait as long as it likes or for ever, and end in any way.
-/

namespace LoadHarness

/-- How an iteration ended. -/
inductive Ending where
  | completed
  | failed
  | crashed
  | aborted
  deriving DecidableEq

/-- What an iteration does next: it waits and then goes on, waits for ever, or ends. -/
inductive Next (τ : Type) where
  | wait (duration : Duration) (state : τ)
  | waitForEver (state : τ)
  | finish (ending : Ending)

/-- Iterations over a world `ω`, with the state `τ` of an iteration that waits. -/
structure Workload (ω τ : Type) where
  /-- Takes an iteration from a wait to the next; it has no state before its first turn. -/
  resume : (now : Duration) → (iteration : Nat) → ω → Option τ → ω × Next τ
  /-- Ends a waiting iteration from outside. -/
  abandon : (now : Duration) → (iteration : Nat) → ω → τ → ω
  /-- Takes note of what the executor tells. -/
  notice : (now : Duration) → ω → Notice → ω
  /-- An iteration waits at most so often. -/
  waits : Nat

/-- How many iterations completed, and how many ended otherwise. -/
structure Tally where
  completed : Nat
  failed : Nat
  deriving DecidableEq

namespace Tally

def empty : Tally := ⟨0, 0⟩

def record (t : Tally) : Ending → Tally
  | .completed => { t with completed := t.completed + 1 }
  | .failed | .crashed | .aborted => { t with failed := t.failed + 1 }

def total (t : Tally) : Nat := t.completed + t.failed

@[simp] theorem total_record (t : Tally) (e : Ending) : (t.record e).total = t.total + 1 := by
  cases e <;> simp only [record, total] <;> omega

end Tally

end LoadHarness
