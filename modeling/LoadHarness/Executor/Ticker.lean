import LoadHarness.Executor.Timer
import LoadHarness.Word

/-!
# Tickers

A ticker comes due at evenly spaced instants, the first one at once. A ticker that is asked
late either keeps its grid, so that missed ticks come back to back, or goes on one period
after the late tick; up to five milliseconds late it always keeps the grid.
-/

namespace LoadHarness

/-- The greatest rate that is used. -/
def rateBound : Nat := Word.bound32 - 1

/-- The time between starts at a rate: at least a nanosecond. A rate of zero counts as one. -/
def pacingPeriod (rate : Nat) (timeUnit : Duration) : Duration :=
  ⟨max (timeUnit.nanos / min (max rate 1) rateBound) 1⟩

/-- What a late ticker does. -/
inductive LatePolicy where
  | keepGrid
  | startOver
  deriving DecidableEq

structure Ticker where
  period : Duration
  policy : LatePolicy
  /-- When the next tick is due. -/
  next : Duration

namespace Ticker

/-- A ticker of a period of at least a nanosecond and at most the longest wait, due at once. -/
def every (period : Duration) (policy : LatePolicy) : Ticker :=
  ⟨(Duration.mk (max period.nanos 1)).asWait, policy, .zero⟩

/-- A ticker that starts over when it is late. -/
def spaced (period : Duration) : Ticker := every period .startOver

/-- A ticker of `rate` ticks in a time unit that keeps its grid. -/
def paced (rate : Nat) (timeUnit : Duration) : Ticker :=
  every (pacingPeriod rate timeUnit) .keepGrid

/-- How late a tick may be without consequences. -/
def tolerance : Duration := .ofMillis 5

/-- Whether the next tick is due. -/
def isDue (t : Ticker) (now : Duration) : Bool := t.next.nanos ≤ now.nanos

/-- Takes the due tick: the instant it was due at, and the ticker from there on. -/
def tick (t : Ticker) (now : Duration) : Duration × Ticker :=
  let late := (t.next + tolerance).nanos < now.nanos
  let start := if late ∧ t.policy = .startOver then now else t.next
  (t.next, { t with next := start.afterWait t.period })

/-- The millisecond in which a tick asked for in the millisecond `now` is delivered. -/
def deliveredAt (t : Ticker) (now : Nat) : Nat := max now t.next.timerMillis

/-- Waits for the next tick from the millisecond `now` on: when it was due, when it is
delivered, and the ticker from there on. -/
def await (t : Ticker) (now : Nat) : Duration × Nat × Ticker :=
  let delivered := t.deliveredAt now
  let (due, next) := t.tick (.ofMillis delivered)
  (due, delivered, next)

end Ticker

end LoadHarness
