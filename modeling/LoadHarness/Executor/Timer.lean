import LoadHarness.Duration
import LoadHarness.Word

/-!
# Instants and timers

An instant is a duration since the start. Timers count whole milliseconds and never come
early. No wait is longer than thirty years: one that was meant to be longer ends then.
-/

namespace LoadHarness

namespace Duration

/-- The timer counts whole milliseconds: the first one at or after an instant. -/
def timerMillis (d : Duration) : Nat := (d.nanos + (nanosPerMilli - 1)) / nanosPerMilli

/-- The clock reads less than `2 ^ 63` whole seconds. -/
def isInstant (d : Duration) : Bool := d.seconds < Word.signedBound64

/-- Thirty years, the longest wait. -/
def longestWait : Duration := .ofSeconds (86400 * 365 * 30)

/-- A wait as long as it will be. -/
def asWait (d : Duration) : Duration := ⟨min d.nanos longestWait.nanos⟩

theorem asWait_of_le (d : Duration) (h : d.nanos ≤ longestWait.nanos) : d.asWait = d := by
  simp only [asWait, Nat.min_eq_left h]

/-- The instant in which a wait that begins at `start` is over. -/
def afterWait (start d : Duration) : Duration := start + d.asWait

end Duration

end LoadHarness
