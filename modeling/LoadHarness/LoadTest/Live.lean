import LoadHarness.Http.Exchange
import LoadHarness.LoadTest.Basic

/-!
# Live runs

In a live run the clock is that of the day and replies come from outside. Every request is
left without a reply at first; whoever carries out the run takes the requests that were sent,
and hands each answer to the iteration that waits for it.
-/

namespace LoadHarness

namespace LoadTest

/-- A target that leaves every reply to the outside. -/
def outside : Target Unit := fun _ _ => ((), .silence)

/-- A run whose replies come from outside. -/
abbrev LiveRun := ExecutorRun (RunState Unit) Pending

/-- The iterations of a live run. -/
def liveWorkload (t : LoadTest) : Workload (RunState Unit) Pending :=
  .ofScenario t.profile.scenario outside t.watched

/-- A live run at its start. -/
def beginLive (t : LoadTest) : LiveRun :=
  ExecutorRun.begin t.liveWorkload t.executor .never
    { target := (), metrics := .fresh t.profile.scenario.errorSeries, sent := [] }

end LoadTest

namespace Pending

/-- Takes the answer to a request that was left without a reply. -/
def receive (given : Answer) (latency : Duration) : Pending → Pending
  | .silence a => .answer a given latency
  | pending => pending

end Pending

namespace LoadTest.LiveRun

/-- The requests that were sent since the last time, in order. -/
def takeSent (r : LiveRun) : List Sent × LiveRun :=
  (r.crew.world.sent.reverse,
    { r with crew := { r.crew with world := { r.crew.world with sent := [] } } })

/-- Hands an answer to the iteration that waits for it. -/
def receive (iteration : Nat) (given : Answer) (latency : Duration) (r : LiveRun) : LiveRun :=
  { r with crew := r.crew.deliver iteration (Pending.receive given latency) }

end LoadTest.LiveRun

end LoadHarness
