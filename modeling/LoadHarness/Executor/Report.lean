import LoadHarness.Duration

/-!
# Executor reports

What an executor tells about a run: how many iterations it started, how they ended, how many
starts it had to drop, and how many workers it used and set aside.
-/

namespace LoadHarness

structure ExecutorReport where
  executor : String
  started : Nat
  completed : Nat
  failed : Nat
  dropped : Nat
  peakWorkers : Nat
  allocatedWorkers : Nat
  elapsed : Duration

end LoadHarness
