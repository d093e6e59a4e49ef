import LoadHarness.Proofs.Executor.Arrivals

/-!
# Tickers that are asked late

Whoever asks a ticker for its ticks may take any time between a tick and the next question. A tick
is delivered once the timer has come to its instant and it has been asked for. A ticker that keeps
its grid is due at the multiples of its period all the same, so after a delay the missed ticks come
back to back. One that starts over is due one period after a tick that came late.
-/

namespace LoadHarness

namespace Ticker

/-- A question for a tick: when it was asked, when the tick was due and when it was delivered. -/
structure Call where
  asked : Duration
  due : Duration
  delivered : Duration

/-- When a tick is delivered: the timer has come to its instant, and it has been asked for. -/
def delivery (t : Ticker) (asked : Duration) : Duration :=
  ⟨max asked.nanos (Duration.ofMillis t.next.timerMillis).nanos⟩

/-- Asks for the next tick, and goes on to the one after it. -/
def call (t : Ticker) (asked : Duration) : Call × Ticker :=
  let delivered := t.delivery asked
  let (due, next) := t.tick delivered
  (⟨asked, due, delivered⟩, next)

/-- Asked in a whole millisecond, a ticker is waited for as an executor waits for it. -/
theorem await_eq (t : Ticker) (now : Nat) :
    t.await now =
      ((t.call (.ofMillis now)).1.due, t.deliveredAt now, (t.call (.ofMillis now)).2) ∧
      (t.call (.ofMillis now)).1.delivered = .ofMillis (t.deliveredAt now) := by
  have same : t.delivery (.ofMillis now) = .ofMillis (t.deliveredAt now) := by
    simp only [delivery, deliveredAt, Duration.ofMillis, Nat.mul_max_mul_right]
  simp only [await, call, same, and_self]

/-- A ticker after some calls, and when the last one was delivered, for someone who takes these
delays before the calls. -/
def afterCalls (t : Ticker) (delays : Nat → Duration) : Nat → Ticker × Duration
  | 0 => (t, .zero)
  | k + 1 =>
    let (t, got) := t.afterCalls delays k
    let (c, next) := t.call (got + delays k)
    (next, c.delivered)

/-- The call of a number; the first one has the number zero. -/
def nth (t : Ticker) (delays : Nat → Duration) (k : Nat) : Call :=
  let (t, got) := t.afterCalls delays k
  (t.call (got + delays k)).1

/-- Calls after these delays, each delivered at the later of two moments: when it was asked for, and
when the timer came to its instant. -/
structure Follows (delays : Nat → Duration) (c : Nat → Call) : Prop where
  first : (c 0).asked = delays 0
  next : ∀ k, (c (k + 1)).asked = (c k).delivered + delays (k + 1)
  delivered : ∀ k, (c k).delivered =
    ⟨max (c k).asked.nanos (Duration.ofMillis (c k).due.timerMillis).nanos⟩

variable {t : Ticker} {delays : Nat → Duration}

theorem nth_due (t : Ticker) (delays : Nat → Duration) (k : Nat) :
    (t.nth delays k).due = (t.afterCalls delays k).1.next := rfl

/-- The calls of every ticker follow the delays. -/
theorem nth_follows (t : Ticker) (delays : Nat → Duration) : Follows delays (t.nth delays) where
  first := congrArg Duration.mk (Nat.zero_add _)
  next _ := rfl
  delivered _ := rfl

/-- What is asked for at once after a late tick, and has come due by then, is delivered at once. -/
theorem Follows.back_to_back {c : Nat → Call} (follows : Follows delays c)
    (order : ∀ k, (c k).due.nanos ≤ (c (k + 1)).due.nanos) {k n : Nat}
    (prompt : ∀ j, k < j → j ≤ k + n → delays j = .zero)
    (past : (Duration.ofMillis (c (k + n)).due.timerMillis).nanos ≤ (c k).delivered.nanos) :
    (c (k + n)).delivered = (c k).delivered := by
  induction n with
  | zero => rfl
  | succ n ih =>
      -- the tick before came at the same moment, and this one is asked for right then
      have earlier : (Duration.ofMillis (c (k + n)).due.timerMillis).nanos ≤
          (Duration.ofMillis (c (k + (n + 1))).due.timerMillis).nanos :=
        Nat.mul_le_mul_right _ (Duration.timerMillis_mono (order (k + n)))
      have before := ih (fun j after upto => prompt j after (Nat.le_succ_of_le upto))
        (Nat.le_trans earlier past)
      have asked : (c (k + (n + 1))).asked = (c k).delivered := by
        have at_once := prompt (k + (n + 1)) (by omega) (Nat.le_refl _)
        have next := follows.next (k + n)
        rw [before] at next
        exact next.trans (by rw [Nat.add_assoc, at_once]; rfl)
      rw [follows.delivered, asked, Nat.max_eq_left past]

/-! ## A ticker that keeps its grid -/

/-- However late it is asked, the next tick is the next one on the grid. -/
theorem afterCalls_paced (s : ExecutorSettings) (delays : Nat → Duration) (k : Nat) :
    ((paced s.rate s.timeUnit).afterCalls delays k).1 =
      ⟨s.tickPeriod, .keepGrid, s.tickInstant k⟩ := by
  induction k with
  | zero => exact paced_eq s
  | succ k ih =>
      simp only [afterCalls, call, ih]
      exact tick_onGrid s k _

theorem nth_due_paced (rate : Nat) (timeUnit : Duration) (delays : Nat → Duration) (k : Nat) :
    ((paced rate timeUnit).nth delays k).due =
      ⟨k * (pacingPeriod rate timeUnit).asWait.nanos⟩ := by
  have onGrid := afterCalls_paced { ExecutorSettings.defaults with rate, timeUnit } delays k
  rw [nth_due, onGrid]
  rfl

/-! ## A ticker that starts over -/

/-- Calls change neither the period of a ticker nor what it does when it is late. -/
theorem afterCalls_kept (t : Ticker) (delays : Nat → Duration) (k : Nat) :
    (t.afterCalls delays k).1.period = t.period ∧ (t.afterCalls delays k).1.policy = t.policy := by
  induction k with
  | zero => exact ⟨rfl, rfl⟩
  | succ k ih => exact ih

/-- The next tick is due one period after a tick that came more than five milliseconds late, and
else one period after that tick was due. -/
theorem nth_due_spaced (period : Duration) (delays : Nat → Duration) (k : Nat) :
    ((spaced period).nth delays (k + 1)).due =
      (if (((spaced period).nth delays k).due + tolerance).nanos <
          ((spaced period).nth delays k).delivered.nanos then
        ((spaced period).nth delays k).delivered
      else ((spaced period).nth delays k).due) + (Duration.mk (max period.nanos 1)).asWait := by
  obtain ⟨kept, late⟩ := afterCalls_kept (spaced period) delays k
  have startOver : (spaced period).policy = .startOver := rfl
  have capped : (spaced period).period.asWait = (spaced period).period :=
    Duration.asWait_of_le _ (Nat.min_le_right _ _)
  have next : ((spaced period).nth delays (k + 1)).due =
      (if (((spaced period).nth delays k).due + tolerance).nanos <
            ((spaced period).nth delays k).delivered.nanos ∧
          ((spaced period).afterCalls delays k).1.policy = .startOver then
        ((spaced period).nth delays k).delivered
      else ((spaced period).nth delays k).due).afterWait
        ((spaced period).afterCalls delays k).1.period := rfl
  rw [next, kept, late, startOver, Duration.afterWait, capped]
  simp only [and_true]
  rfl

/-! ## Both kinds of tickers -/

/-- The period of a rate is at least a nanosecond. -/
theorem asWait_pacingPeriod_pos (rate : Nat) (timeUnit : Duration) :
    1 ≤ (pacingPeriod rate timeUnit).asWait.nanos := by
  have longest : 1 ≤ Duration.longestWait.nanos := by decide
  exact Nat.le_min.mpr ⟨Nat.le_max_right _ _, longest⟩

/-- Whatever delays someone takes, every tick is delivered at the later of two moments: when it was
asked for, and when the timer came to its instant. The ticks of a rate are due at the multiples of
its period, which is at least a nanosecond and at most thirty years; those that come due during a
delay are delivered at once, one after the other. A ticker that starts over has its first tick due
at once. Each other one is due one period after the one before it was due, or was delivered if that
was more than five milliseconds later. -/
theorem ticks_of_delays (delays : Nat → Duration) :
    (∀ rate timeUnit,
      let c := (paced rate timeUnit).nth delays
      let period := (pacingPeriod rate timeUnit).asWait
      Follows delays c ∧ 1 ≤ period.nanos ∧ (∀ k, (c k).due = ⟨k * period.nanos⟩) ∧
        ∀ k n, (∀ j, k < j → j ≤ k + n → delays j = .zero) →
          (Duration.ofMillis (c (k + n)).due.timerMillis).nanos ≤ (c k).delivered.nanos →
            (c (k + n)).delivered = (c k).delivered) ∧
    ∀ period,
      let c := (spaced period).nth delays
      Follows delays c ∧ (c 0).due = .zero ∧ ∀ k, (c (k + 1)).due =
        (if ((c k).due + tolerance).nanos < (c k).delivered.nanos then (c k).delivered
          else (c k).due) + (Duration.mk (max period.nanos 1)).asWait := by
  refine ⟨fun rate timeUnit => ?_, fun period => ?_⟩
  · have due := nth_due_paced rate timeUnit delays
    have order (k : Nat) : ((paced rate timeUnit).nth delays k).due.nanos ≤
        ((paced rate timeUnit).nth delays (k + 1)).due.nanos := by
      rw [due, due]
      exact Nat.mul_le_mul_right _ (Nat.le_succ k)
    have follows := nth_follows (paced rate timeUnit) delays
    exact ⟨follows, asWait_pacingPeriod_pos rate timeUnit, due,
      fun k n => follows.back_to_back order⟩
  · exact ⟨nth_follows _ delays, rfl, nth_due_spaced period delays⟩

/-- A delay of a quarter of a second before the third tick, and none before any other. -/
def stall (k : Nat) : Duration := if k = 2 then .ofMillis 250 else .zero

/-- At ten ticks a second the third and the fourth tick come together after the delay. -/
theorem ticks_of_delays_stall :
    ((paced 10 (.ofSeconds 1)).nth stall 3).due = .ofMillis 300 ∧
      ((paced 10 (.ofSeconds 1)).nth stall 2).delivered = .ofMillis 350 ∧
      ((paced 10 (.ofSeconds 1)).nth stall 3).delivered =
        ((paced 10 (.ofSeconds 1)).nth stall 2).delivered := by
  obtain ⟨-, -, due, back_to_back⟩ := (ticks_of_delays stall).1 10 (.ofSeconds 1)
  refine ⟨due 3, by decide, back_to_back 2 1 (fun j after upto => ?_) (by decide)⟩
  obtain rfl : j = 3 := by omega
  rfl

/-- A ticker that starts over is due a tenth of a second after the tick that came with the delay. -/
example : ((spaced (.ofMillis 100)).nth stall 3).due = .ofMillis 450 := by decide

/-- A period of more than thirty years is cut down to thirty years of 365 days. -/
theorem due_before_long_period :
    ¬ ∀ rate timeUnit delays k, ((paced rate timeUnit).nth delays k).due =
      ⟨k * (pacingPeriod rate timeUnit).nanos⟩ := by
  intro onGrid
  have second := onGrid 1 (.ofSeconds 946080001) (fun _ => .zero) 1
  exact absurd second (by decide)

end Ticker

end LoadHarness
