import LoadHarness.Proofs.Executor.Account
import LoadHarness.Proofs.Executor.Punctual

/-!
# Arrivals

An executor of a constant rate takes its ticks from a grid: one at once and then one in every
period. A tick either starts an iteration or is dropped, so whatever the iterations do and however
many workers there are, as many ticks are taken as the timer delivers before the deadline, provided
that the timer is never late. Late ticks come back to back, and a deadline in between ends them.
-/

namespace LoadHarness

/-! ## The grid -/

/-- How many iterations were started or dropped. -/
def History.arrivals (h : History) : Nat := (History.starts h).length + h.count .dropped

theorem History.arrivals_append (h g : History) :
    History.arrivals (h ++ g) = History.arrivals h + History.arrivals g := by
  simp only [arrivals, starts_append, List.length_append, List.count_append]
  omega

theorem Duration.timerMillis_mono {a b : Duration} (le : a.nanos ≤ b.nanos) :
    a.timerMillis ≤ b.timerMillis :=
  Nat.div_le_div_right (Nat.add_le_add_right le _)

/-- An instant has come in a millisecond exactly if the timer delivers it by then. -/
theorem Duration.timerMillis_le_iff {d : Duration} {now : Nat} :
    d.timerMillis ≤ now ↔ d.nanos ≤ (Duration.ofMillis now).nanos := by
  simp only [timerMillis, ofMillis, nanosPerMilli]
  omega

namespace ExecutorSettings

/-- The time between two ticks, which is no longer than any wait. -/
def tickPeriod (s : ExecutorSettings) : Duration := (pacingPeriod s.rate s.timeUnit).asWait

/-- The instant of a tick; the first one has the number zero. -/
def tickInstant (s : ExecutorSettings) (k : Nat) : Duration := ⟨k * s.tickPeriod.nanos⟩

/-- The timer delivers a tick before the deadline; one that comes with the deadline does not
count. -/
def Delivers (s : ExecutorSettings) (k : Nat) : Prop :=
  (s.tickInstant k).timerMillis < s.duration.timerMillis

variable {s : ExecutorSettings}

theorem tickInstant_mono {j k : Nat} (le : j ≤ k) :
    (s.tickInstant j).nanos ≤ (s.tickInstant k).nanos :=
  Nat.mul_le_mul_right _ le

/-- No tick overtakes an earlier one. -/
theorem Delivers.of_le {j k : Nat} (delivers : s.Delivers k) (le : j ≤ k) : s.Delivers j :=
  Nat.lt_of_le_of_lt (Duration.timerMillis_mono (tickInstant_mono le)) delivers

end ExecutorSettings

/-- A ticker of a rate has the period of the grid. -/
theorem Ticker.paced_eq (s : ExecutorSettings) :
    paced s.rate s.timeUnit = ⟨s.tickPeriod, .keepGrid, s.tickInstant 0⟩ := by
  have least : max (pacingPeriod s.rate s.timeUnit).nanos 1 =
      (pacingPeriod s.rate s.timeUnit).nanos := by
    simp only [pacingPeriod]
    omega
  simp only [paced, every, least, ExecutorSettings.tickPeriod, ExecutorSettings.tickInstant,
    Nat.zero_mul]
  rfl

/-- On the grid every tick is followed by the next one, however late it is taken. -/
theorem Ticker.tick_onGrid (s : ExecutorSettings) (k : Nat) (now : Duration) :
    (tick ⟨s.tickPeriod, .keepGrid, s.tickInstant k⟩ now).2 =
      ⟨s.tickPeriod, .keepGrid, s.tickInstant (k + 1)⟩ := by
  have capped : s.tickPeriod.asWait = s.tickPeriod :=
    Duration.asWait_of_le _ (Nat.min_le_right _ _)
  have next : (s.tickInstant k).afterWait s.tickPeriod = s.tickInstant (k + 1) := by
    simp only [Duration.afterWait, capped, ExecutorSettings.tickInstant, Nat.succ_mul]
    rfl
  simp [tick, next]

namespace ExecutorRun

variable {ω τ : Type} {w : Workload ω τ} {r r' : ExecutorRun ω τ} {h g : History}
  {s : ExecutorSettings}

/-! ## The ticks that are taken -/

/-- Without a stage that starts iterations none is started or dropped. -/
theorem Turn.arrivals_eq_zero (turn : Turn w r g r') (past : r.stage.isStarting = false) :
    History.arrivals g = 0 := by
  cases turn with
  | tick stage | lease stage | leaseHanded stage => simp [stage, Stage.isStarting] at past
  | resume alive resume =>
      obtain rfl | ⟨i, e, rfl⟩ := Resume.eq_nil_or_ended resume <;> rfl
  | _ => rfl

/-- Where a run stands on the grid: it waits for the next tick, which is not late, or all ticks
that are delivered in time have been taken. -/
inductive OnGrid (s : ExecutorSettings) (r : ExecutorRun ω τ) (h : History) : Prop where
  | waiting
      (stage : r.stage = .arriving ⟨s.tickPeriod, .keepGrid, s.tickInstant (History.arrivals h)⟩
        s.duration)
      (early : r.now ≤ (s.tickInstant (History.arrivals h)).timerMillis)
      (taken : ∀ k < History.arrivals h, s.Delivers k)
  | closed (stage : r.stage.isStarting = false)
      (taken : ∀ k, k < History.arrivals h ↔ s.Delivers k)

namespace OnGrid

theorem begin (w : Workload ω τ) (kind : s.kind = .constantArrivalRate) (shutdown : Shutdown)
    (world : ω) : OnGrid s (begin w s shutdown world) [] := by
  refine .waiting ?_ (Nat.zero_le _) nofun
  simp only [ExecutorRun.begin, kind, Ticker.paced_eq]
  rfl

/-- A run that waits for a tick goes on to wait for it. -/
theorem wait (stage : r.stage = .arriving
      ⟨s.tickPeriod, .keepGrid, s.tickInstant (History.arrivals h)⟩ s.duration)
    (early : r.now ≤ (s.tickInstant (History.arrivals h)).timerMillis)
    (taken : ∀ k < History.arrivals h, s.Delivers k) (none : History.arrivals g = 0) :
    OnGrid s r (h ++ g) := by
  have same : History.arrivals (h ++ g) = History.arrivals h := by
    rw [History.arrivals_append, none, Nat.add_zero]
  rw [← same] at stage early taken
  exact .waiting stage early taken

/-- A tick that is delivered before the deadline is taken, and the next one is waited for. -/
theorem take (early : r.now ≤ (s.tickInstant (History.arrivals h)).timerMillis)
    (taken : ∀ k < History.arrivals h, s.Delivers k)
    (delivered : (s.tickInstant (History.arrivals h)).timerMillis ≤ r.now)
    (before : r.now < s.duration.timerMillis) {e : Event}
    (one : History.arrivals (h ++ [e]) = History.arrivals h + 1) :
    OnGrid s (r.takeTick w ⟨s.tickPeriod, .keepGrid, s.tickInstant (History.arrivals h)⟩
      s.duration) (h ++ [e]) := by
  refine .waiting ?_ ?_ ?_
  · rw [one, ← Ticker.tick_onGrid s _ r.time]
    rfl
  · rw [one]
    have later := Duration.timerMillis_mono
      (s.tickInstant_mono (Nat.le_succ (History.arrivals h)))
    exact Nat.le_trans early later
  · rw [one]
    intro k less
    rcases Nat.lt_succ_iff_lt_or_eq.mp less with earlier | rfl
    · exact taken k earlier
    · exact Nat.lt_of_le_of_lt delivered before

/-- At the deadline no tick is left that is delivered before it. -/
theorem taken_iff (early : r.now ≤ (s.tickInstant (History.arrivals h)).timerMillis)
    (taken : ∀ k < History.arrivals h, s.Delivers k) (up : s.duration.timerMillis ≤ r.now)
    (k : Nat) : k < History.arrivals h ↔ s.Delivers k := by
  refine ⟨taken k, fun delivers => Nat.lt_of_not_le fun beyond => ?_⟩
  have tie := delivers.of_le beyond
  exact Nat.lt_irrefl _ (Nat.lt_of_lt_of_le tie (Nat.le_trans up early))

theorem turn (grid : OnGrid s r h) (step : PunctualTurn w r g r') : OnGrid s r' (h ++ g) := by
  obtain ⟨turn, running, inTime⟩ := step
  cases grid with
  | closed past taken =>
      refine .closed (turn.not_isStarting past) ?_
      rw [History.arrivals_append, turn.arrivals_eq_zero past, Nat.add_zero]
      exact taken
  | waiting arriving early taken =>
      -- no other stage than the one of arrivals can be left by the turn
      cases turn with
      | @tick ticker deadline stage open_ before due =>
          obtain ⟨rfl, rfl⟩ := Stage.arriving.inj (arriving.symm.trans stage)
          have delivered : (s.tickInstant (History.arrivals h)).timerMillis ≤ r.now :=
            Duration.timerMillis_le_iff.mpr (of_decide_eq_true due)
          refine take early taken delivered before ?_
          rw [History.arrivals_append]
          split <;> rfl
      | @close ticker deadline stage past =>
          obtain ⟨rfl, rfl⟩ := Stage.arriving.inj (arriving.symm.trans stage)
          have open_ : r.stopped = false := running
          have up : s.duration.timerMillis ≤ r.now :=
            past.resolve_left (Bool.eq_false_iff.mp open_)
          refine .closed rfl fun k => ?_
          rw [History.arrivals_append]
          exact taken_iff early taken up k
      | count | reorder | signal => exact wait arriving early taken rfl
      | resume alive resume =>
          refine wait arriving early taken ?_
          obtain rfl | ⟨i, e, rfl⟩ := Resume.eq_nil_or_ended resume <;> rfl
      | clock instant =>
          refine wait arriving ?_ taken rfl
          have due : r.nextTimer? = some (min (s.tickInstant (History.arrivals h)).timerMillis
              s.duration.timerMillis) := by
            rw [nextTimer?, arriving]
          exact Nat.le_trans (inTime _ due) (Nat.max_le.mpr ⟨early, Nat.min_le_left _ _⟩)
      | lease stage | leaseHanded stage | want stage | leased stage | interrupt stage
      | hasten stage | giveUp stage | abort stage => cases arriving.symm.trans stage
      | finish stage =>
          rw [arriving] at stage
          cases stage

/-- A run whose timer is never late stays on the grid. -/
theorem run (kind : s.kind = .constantArrivalRate) {shutdown : Shutdown} {world : ω}
    (run : Punctual w (ExecutorRun.begin w s shutdown world) h r) : OnGrid s r h := by
  induction run with
  | nil => exact .begin w kind shutdown world
  | snoc _ last ih => exact ih.turn last

end OnGrid

theorem Schedule.arrivals {shutdown : Shutdown} {world : ω}
    (run : Schedule w (ExecutorRun.begin w s shutdown world) h r) :
    r.report.started + r.report.dropped = History.arrivals h := by
  have account := run.accounted
  have started := congrArg List.length account.starts
  rw [List.length_range] at started
  rw [History.arrivals, started, ← account.dropped]
  rfl

/-- A punctual run that is over has taken every tick that is delivered in time and no other. -/
theorem Punctual.arrivals (kind : s.kind = .constantArrivalRate) {shutdown : Shutdown} {world : ω}
    (run : Punctual w (ExecutorRun.begin w s shutdown world) h r)
    (finished : r.isFinished = true) (k : Nat) :
    k < r.report.started + r.report.dropped ↔ s.Delivers k := by
  rw [isFinished_iff] at finished
  rw [run.schedule.arrivals]
  cases OnGrid.run kind run with
  | waiting stage => cases finished.symm.trans stage
  | closed _ taken => exact taken k

/-! ## Two runs of one rate -/

variable {ω' τ' : Type} {w' : Workload ω' τ'} {s' : ExecutorSettings} {h' : History}

/-- An executor of a constant rate that is never shut down and whose timer is never late starts or
drops as many iterations as there are ticks before the deadline, on the grid whose period is that
of the rate, or thirty years if that is shorter. So two such executors agree on the number,
whatever their iterations do and however many workers they have. -/
theorem arrivals_of_punctual {shutdown shutdown' : Shutdown} {world : ω} {world' : ω'}
    {r : ExecutorRun ω τ} {r' : ExecutorRun ω' τ'}
    (run : Punctual w (ExecutorRun.begin w s shutdown world) h r)
    (run' : Punctual w' (ExecutorRun.begin w' s' shutdown' world') h' r')
    (finished : r.isFinished = true) (finished' : r'.isFinished = true)
    (kind : s.kind = .constantArrivalRate) (kind' : s'.kind = .constantArrivalRate)
    (rate : s'.rate = s.rate) (timeUnit : s'.timeUnit = s.timeUnit)
    (duration : s'.duration = s.duration) :
    (∀ k, k < r.report.started + r.report.dropped ↔
      (Duration.mk (k * (pacingPeriod s.rate s.timeUnit).asWait.nanos)).timerMillis <
        s.duration.timerMillis) ∧
      r'.report.started + r'.report.dropped = r.report.started + r.report.dropped := by
  have taken := run.arrivals kind finished
  have agree (k : Nat) : k < r'.report.started + r'.report.dropped ↔
      k < r.report.started + r.report.dropped := by
    have same : s'.Delivers k ↔ s.Delivers k := by
      simp only [ExecutorSettings.Delivers, ExecutorSettings.tickInstant,
        ExecutorSettings.tickPeriod, rate, timeUnit, duration]
    rw [run'.arrivals kind' finished', same, taken]
  refine ⟨taken, Nat.le_antisymm ?_ ?_⟩
  · exact Nat.le_of_not_lt fun less => Nat.lt_irrefl _ ((agree _).mp less)
  · exact Nat.le_of_not_lt fun less => Nat.lt_irrefl _ ((agree _).mpr less)

/-- Iterations that never end. -/
def stuck : Workload Unit Unit where
  resume _ _ _ _ := ((), .waitForEver ())
  abandon _ _ _ _ := ()
  notice _ _ _ := ()
  waits := 0

/-- Two starts in three milliseconds for six milliseconds, over at most one worker. -/
def briefArrivals : ExecutorSettings :=
  { ExecutorSettings.defaults with
    rate := 2
    timeUnit := .ofMillis 3
    duration := .ofMillis 6
    preAllocatedWorkers := 0
    maxWorkers := 1 }

/-- The same over more workers. -/
def roomyArrivals : ExecutorSettings := { briefArrivals with maxWorkers := 4 }

/-- One iteration is stuck and three starts are dropped where else all four are made. -/
theorem arrivals_of_punctual_stuck :
    (execute stuck briefArrivals .never ()).report.started = 1 ∧
      (execute stuck briefArrivals .never ()).report.dropped = 3 ∧
      (∀ k, k < 1 + 3 ↔ (Duration.mk (k * 1500000)).timerMillis < 6) ∧
      (execute evenSucceed roomyArrivals .never ()).report.started +
        (execute evenSucceed roomyArrivals .never ()).report.dropped = 1 + 3 := by
  obtain ⟨h, run⟩ := execute_punctual stuck briefArrivals ()
  obtain ⟨h', run'⟩ := execute_punctual evenSucceed roomyArrivals ()
  have started : (execute stuck briefArrivals .never ()).report.started = 1 := by
    decide +kernel
  have dropped : (execute stuck briefArrivals .never ()).report.dropped = 3 := by
    decide +kernel
  have agree := arrivals_of_punctual run run' (by decide +kernel) (by decide +kernel)
    rfl rfl rfl rfl rfl
  rw [started, dropped] at agree
  exact ⟨started, dropped, agree⟩

/-- One start in more than thirty years, up to the second one. -/
def rareArrivals : ExecutorSettings :=
  { ExecutorSettings.defaults with
    rate := 1
    timeUnit := .ofSeconds (86400 * 365 * 30 + 1)
    duration := .ofSeconds (86400 * 365 * 30 + 1) }

/-- The grid of a rate below one start in thirty years is not that of the pacing period: a second
start comes a second too early. -/
theorem rare_arrivals_off_grid :
    ¬ ∀ (h : History) (r : ExecutorRun Unit Unit),
      Punctual evenSucceed (ExecutorRun.begin evenSucceed rareArrivals .never ()) h r →
      r.isFinished = true → ∀ k, k < r.report.started + r.report.dropped ↔
        (Duration.mk
          (k * (pacingPeriod rareArrivals.rate rareArrivals.timeUnit).nanos)).timerMillis <
          rareArrivals.duration.timerMillis := by
  intro claim
  obtain ⟨h, run⟩ := execute_punctual evenSucceed rareArrivals ()
  have second := (claim h _ run (by decide +kernel) 1).mp (by decide +kernel)
  exact absurd second (by decide +kernel)

end ExecutorRun

end LoadHarness
