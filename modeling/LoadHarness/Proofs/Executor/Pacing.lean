import Mathlib
import LoadHarness.Proofs.Executor.Completion

/-!
# Starts of whole time units

The ticks of a rate are a whole number of nanoseconds apart, and the last millisecond in which they
are taken is the one before the deadline. So the number of starts of a run whose timer is never late
is a quotient. For a duration of whole time units it is the number of starts that the rate asks for
if the rate divides the time unit and asks for no more than one start in a millisecond. Otherwise
what the division of the time unit leaves adds up, one rest for each unit, and comes to more starts
once the rests make up for a period; and ticks that are delivered with the deadline are not taken.
-/

namespace LoadHarness

namespace ExecutorSettings

variable {s : ExecutorSettings}

/-- The last instant in which ticks are taken, in nanoseconds: the millisecond before the one of
the deadline. -/
def lastCall (s : ExecutorSettings) : Nat :=
  (s.duration.timerMillis - 1) * Duration.nanosPerMilli

/-- The last call is at most a millisecond before the deadline. -/
theorem lastCall_bounds (positive : 0 < s.duration.nanos) :
    s.lastCall < s.duration.nanos ∧ s.duration.nanos ≤ s.lastCall + Duration.nanosPerMilli := by
  simp only [lastCall, Duration.timerMillis, Duration.nanosPerMilli]
  omega

/-- The timer delivers a tick before the deadline if it is due by the last call. -/
theorem delivers_iff (positive : 0 < s.duration.nanos) (k : Nat) :
    s.Delivers k ↔ k < s.lastCall / s.tickPeriod.nanos + 1 := by
  have deadline : 0 < s.duration.timerMillis := by
    simp only [Duration.timerMillis, Duration.nanosPerMilli]
    omega
  rw [Nat.lt_succ_iff, Nat.le_div_iff_mul_le s.tickPeriod_pos, Delivers,
    Nat.lt_iff_le_pred deadline, Duration.timerMillis_le_iff]
  rfl

/-- The last of `n` ticks is due by the last call and the next one is not. -/
theorem starts_eq_iff {n : Nat} (positive : 0 < n) :
    s.lastCall / s.tickPeriod.nanos + 1 = n ↔
      (n - 1) * s.tickPeriod.nanos ≤ s.lastCall ∧ s.lastCall < n * s.tickPeriod.nanos := by
  rw [← Nat.le_div_iff_mul_le s.tickPeriod_pos, ← Nat.div_lt_iff_lt_mul s.tickPeriod_pos]
  omega

/-- A rate that divides the time unit has that part of it as its period. -/
theorem tickPeriod_of_dvd (some_rate : 0 < s.rate) (word : s.rate ≤ rateBound)
    (even : s.rate ∣ s.timeUnit.nanos) (positive : 0 < s.timeUnit.nanos)
    (short : s.timeUnit.nanos / s.rate ≤ Duration.longestWait.nanos) :
    s.tickPeriod.nanos = s.timeUnit.nanos / s.rate := by
  have least : 1 ≤ s.timeUnit.nanos / s.rate := Nat.div_pos (Nat.le_of_dvd positive even) some_rate
  simp only [tickPeriod, pacingPeriod, Duration.asWait, Nat.max_eq_left some_rate,
    Nat.min_eq_left word, Nat.max_eq_left least, Nat.min_eq_left short]

end ExecutorSettings

namespace ExecutorRun

variable {ω τ : Type} {w : Workload ω τ} {r : ExecutorRun ω τ} {h : History}
  {s : ExecutorSettings} {shutdown : Shutdown} {world : ω}

/-- A punctual run that is over has started or dropped as many iterations as there are ticks up to
the last call. -/
theorem Punctual.starts_eq (run : Punctual w (begin w s shutdown world) h r)
    (finished : r.isFinished = true) (kind : s.kind = .constantArrivalRate)
    (positive : 0 < s.duration.nanos) :
    r.report.started + r.report.dropped = s.lastCall / s.tickPeriod.nanos + 1 :=
  eq_of_forall_lt_iff fun k =>
    (run.arrivals kind finished k).trans (ExecutorSettings.delivers_iff positive k)

/-- The number of starts in a duration of whole time units, and when it is the one that the rate
asks for: exactly if the last of so many ticks is due by the last call and the next one is not. So
it is for a rate that divides the time unit and asks for no more than one start in a millisecond. -/
theorem starts_of_whole_units {m : Nat} (run : Punctual w (begin w s shutdown world) h r)
    (finished : r.isFinished = true) (kind : s.kind = .constantArrivalRate)
    (some_rate : 1 ≤ s.rate) (positive : 0 < s.timeUnit.nanos) (some_unit : 1 ≤ m)
    (whole : s.duration.nanos = m * s.timeUnit.nanos) :
    r.report.started + r.report.dropped = s.lastCall / s.tickPeriod.nanos + 1 ∧
      (r.report.started + r.report.dropped = m * s.rate ↔
        (m * s.rate - 1) * s.tickPeriod.nanos ≤ s.lastCall ∧
          s.lastCall < m * s.rate * s.tickPeriod.nanos) ∧
      (s.rate ∣ s.timeUnit.nanos → s.rate ≤ rateBound →
        Duration.nanosPerMilli ≤ s.timeUnit.nanos / s.rate →
        s.timeUnit.nanos / s.rate ≤ Duration.longestWait.nanos →
        r.report.started + r.report.dropped = m * s.rate) := by
  have lasting : 0 < s.duration.nanos := whole ▸ Nat.mul_pos some_unit positive
  have some_start : 0 < m * s.rate := Nat.mul_pos some_unit some_rate
  have starts := run.starts_eq finished kind lasting
  refine ⟨starts, starts ▸ ExecutorSettings.starts_eq_iff some_start, ?_⟩
  intro even word slow short
  have period := ExecutorSettings.tickPeriod_of_dvd some_rate word even positive short
  have bounds := ExecutorSettings.lastCall_bounds lasting
  have all : m * s.rate * s.tickPeriod.nanos = s.duration.nanos := by
    rw [whole, period, Nat.mul_assoc, Nat.mul_div_cancel' even]
  rw [starts, ExecutorSettings.starts_eq_iff some_start, Nat.sub_one_mul, all, period]
  omega

/-- Four starts are asked for in six milliseconds: one is made and three are dropped. -/
theorem starts_of_whole_units_stuck :
    (execute stuck briefArrivals .never ()).report.started +
      (execute stuck briefArrivals .never ()).report.dropped = 2 * 2 := by
  obtain ⟨h, run⟩ := execute_punctual stuck briefArrivals ()
  obtain ⟨-, -, even⟩ := starts_of_whole_units (m := 2) run (by decide +kernel) rfl
    (by decide) (by decide) (by decide) (by decide)
  exact even (by decide) (by decide) (by decide) (by decide)

/-- Six hundred thousand starts in every second, for three seconds. -/
def hurriedArrivals : ExecutorSettings :=
  { ExecutorSettings.defaults with
    rate := 600000
    timeUnit := .ofSeconds 1
    duration := .ofSeconds 3
    preAllocatedWorkers := 1
    maxWorkers := 1
    gracefulStop := .zero }

/-- A period of 1666 nanoseconds leaves 400000 nanoseconds of every second, which come to 121 starts
more than were asked for. -/
theorem hurried_arrivals_exceed :
    ¬ ∀ (h : History) (r : ExecutorRun Unit Unit),
      Punctual stuck (begin stuck hurriedArrivals .never ()) h r → r.isFinished = true →
      r.report.started + r.report.dropped = 3 * hurriedArrivals.rate := by
  intro claim
  obtain ⟨h, r, run, finished⟩ := exists_punctual_finished stuck hurriedArrivals () rfl
  have starts := run.starts_eq finished rfl (by decide)
  rw [claim h r run finished] at starts
  exact absurd starts (by decide)

end ExecutorRun

end LoadHarness
