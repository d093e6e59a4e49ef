import LoadHarness.Profile.Basic
import LoadHarness.Proofs.Executor.Account
import LoadHarness.Proofs.Executor.Staffing

/-!
# How executors open

An executor opens its pool, its ticker and its deadline, and each of these has a bound that it must
not be given less or more than. The ticker takes care of itself: its rate and its period are raised
to what is possible. But nobody looks whether the pool is too large or the deadline too far, and an
accepted profile can break down for either. Once it is open, nothing goes wrong any more.
-/

namespace LoadHarness

/-! ## Opening with every bound checked -/

/-- What can go wrong when an executor opens. -/
inductive Hazard where
  | zeroDivisor
  | zeroPeriod
  | breakdown (b : ExecutorSettings.Breakdown)

/-- The time between starts, if it can be divided by the rate. -/
def pacingPeriod? (rate : Nat) (timeUnit : Duration) : Except Hazard Duration :=
  let divisor := min (max rate 1) rateBound
  if divisor = 0 then .error .zeroDivisor else .ok ⟨max (timeUnit.nanos / divisor) 1⟩

/-- A ticker, if it has a period. -/
def Ticker.every? (period : Duration) (policy : LatePolicy) : Except Hazard Ticker :=
  let period : Duration := ⟨max period.nanos 1⟩
  if period = .zero then .error .zeroPeriod else .ok ⟨period.asWait, policy, .zero⟩

/-- A pool, if it is not too large. -/
def Pool.ofSizes? (preAllocated size : Nat) : Except Hazard Pool :=
  let pool := ofSizes preAllocated size
  if mostWorkers < pool.max then .error (.breakdown .tooManyWorkers) else .ok pool

/-- A deadline, if the clock can show it. -/
def deadline? (begun duration : Duration) : Except Hazard Duration :=
  if (begun + duration).isInstant then .ok duration else .error (.breakdown .deadlineTooFar)

/-- The pool of an executor and what it waits for first, when the clock reads `begun`. -/
def ExecutorSettings.opening? (begun : Duration) (s : ExecutorSettings) :
    Except Hazard (Pool × Stage) := do
  let pool ← Pool.ofSizes? s.poolSizes.1 s.poolSizes.2
  match s.kind with
  | .constantArrivalRate => do
    let period ← pacingPeriod? s.rate s.timeUnit
    let ticker ← Ticker.every? period .keepGrid
    let deadline ← deadline? begun s.duration
    return (pool, .arriving ticker deadline)
  | .fixedIterations => return (pool, .leasing)

/-! ## What stays within its bounds -/

/-- Rates are raised to one and cut to 32 binary digits, so that it can be divided by them. -/
theorem pacingPeriod_eq (rate : Nat) (timeUnit : Duration) :
    pacingPeriod? rate timeUnit = .ok (pacingPeriod rate timeUnit) := by
  have divisor : min (max rate 1) rateBound ≠ 0 := by
    have bound : rateBound ≠ 0 := by decide
    omega
  exact if_neg divisor

/-- Periods are raised to a nanosecond. -/
theorem Ticker.every_eq (period : Duration) (policy : LatePolicy) :
    every? period policy = .ok (every period policy) := by
  have some_time : (⟨max period.nanos 1⟩ : Duration) ≠ .zero := by
    intro none
    have nanos : max period.nanos 1 = 0 := congrArg Duration.nanos none
    omega
  exact if_neg some_time

/-- A pool is too large exactly if too many workers are asked for. -/
theorem Pool.ofSizes_eq (preAllocated size : Nat) :
    ofSizes? preAllocated size =
      if mostWorkers < size then .error (.breakdown .tooManyWorkers)
      else .ok (ofSizes preAllocated size) := by
  have bound : 1 ≤ mostWorkers := by decide
  have same : mostWorkers < (ofSizes preAllocated size).max ↔ mostWorkers < size := by
    change mostWorkers < Max.max size 1 ↔ mostWorkers < size
    omega
  simp only [ofSizes?, same]

namespace ExecutorSettings

open ExecutorRun

variable {ω τ : Type} {s : ExecutorSettings} {begun : Duration}

/-- An executor opens unless it breaks down, and then as it is at the start of a run. -/
theorem opening_eq (w : Workload ω τ) (s : ExecutorSettings) (begun : Duration)
    (shutdown : Shutdown) (world : ω) :
    s.opening? begun =
      match s.breakdownAt? begun with
      | some b => .error (.breakdown b)
      | none =>
        .ok ((begin w s shutdown world).crew.pool, (begin w s shutdown world).stage) := by
  rw [opening?, breakdownAt?, Pool.ofSizes_eq]
  by_cases many : Pool.mostWorkers < s.poolSizes.2
  · rw [if_pos many, if_pos many]
    rfl
  rw [if_neg many, if_neg many]
  have opened : (begin w s shutdown world).crew.pool =
      .ofSizes s.poolSizes.1 s.poolSizes.2 := rfl
  rw [opened]
  simp only [begin]
  cases kind : s.kind with
  | fixedIterations => rfl
  | constantArrivalRate =>
      simp only [pacingPeriod_eq, Ticker.every_eq, deadline?, true_and]
      cases near : (begun + s.duration).isInstant <;> rfl

/-- Settings lead to a breakdown if they ask for too many workers, or else for a deadline that the
clock cannot show. -/
theorem breakdownAt_eq_some {b : Breakdown} :
    s.breakdownAt? begun = some b ↔
      b = .tooManyWorkers ∧ Pool.mostWorkers < s.poolSizes.2 ∨
        b = .deadlineTooFar ∧ s.poolSizes.2 ≤ Pool.mostWorkers ∧
          s.kind = .constantArrivalRate ∧ Word.signedBound64 ≤ (begun + s.duration).seconds := by
  have far : (begun + s.duration).isInstant = false ↔
      Word.signedBound64 ≤ (begun + s.duration).seconds := by
    rw [Duration.isInstant, decide_eq_false_iff_not, Nat.not_lt]
  rw [← far, breakdownAt?]
  split
  · next many => cases b <;> simp [many, Nat.not_le.mpr many]
  · next few =>
    split
    · next late => cases b <;> simp [few, Nat.not_lt.mp few, late.1, late.2]
    · next in_time =>
      constructor
      · nofun
      · rintro (⟨-, many⟩ | ⟨-, -, late⟩)
        · exact absurd many few
        · exact absurd late in_time

/-! ## Openings -/

/-- An executor breaks down for too many workers or too far a deadline, for nothing else, and only
when it opens. Once it is open, no more workers are taken, set aside or counted than there are, and
whoever is to give a worker back has taken one, in every schedule of every workload. -/
theorem opens_within_bounds (w : Workload ω τ) (s : ExecutorSettings) (begun : Duration)
    (shutdown : Shutdown) (world : ω) :
    (∀ hazard, s.opening? begun = .error hazard ↔
      hazard = .breakdown .tooManyWorkers ∧ Pool.mostWorkers < s.poolSizes.2 ∨
        hazard = .breakdown .deadlineTooFar ∧ s.poolSizes.2 ≤ Pool.mostWorkers ∧
          s.kind = .constantArrivalRate ∧ Word.signedBound64 ≤ (begun + s.duration).seconds) ∧
    ∀ pool stage, s.opening? begun = .ok (pool, stage) →
      (begin w s shutdown world).crew.pool = pool ∧
      (begin w s shutdown world).stage = stage ∧
      ∀ h r, Schedule w (begin w s shutdown world) h r →
        r.crew.Staffed 0 ∧ (r.crew.tasks ≠ [] ∨ r.crew.handed = true → 0 < r.crew.pool.taken) := by
  have opening := opening_eq w s begun shutdown world
  constructor
  · intro hazard
    have broken : s.opening? begun = .error hazard ↔
        ∃ b, s.breakdownAt? begun = some b ∧ hazard = .breakdown b := by
      rw [opening]
      cases s.breakdownAt? begun with
      | none => simp
      | some b => simp [eq_comm]
    simp only [broken, breakdownAt_eq_some]
    constructor
    · rintro ⟨b, ⟨rfl, many⟩ | ⟨rfl, late⟩, rfl⟩
      · exact .inl ⟨rfl, many⟩
      · exact .inr ⟨rfl, late⟩
    · rintro (⟨rfl, many⟩ | ⟨rfl, late⟩)
      · exact ⟨_, .inl ⟨rfl, many⟩, rfl⟩
      · exact ⟨_, .inr ⟨rfl, late⟩, rfl⟩
  · intro pool stage opened
    rw [opening] at opened
    split at opened
    · cases opened
    · cases opened
      refine ⟨rfl, rfl, fun h r schedule => ?_⟩
      have staffed := schedule.staffed
      exact ⟨staffed, staffed.taken_pos⟩

/-- Three iterations over two workers, when two have been started. -/
theorem opens_within_bounds_threeByTwo :
    let r := (begin evenSucceed threeByTwo .never ()).look evenSucceed 2
    threeByTwo.opening? clockStart = .ok (.ofSizes 2 2, .leasing) ∧
      r.crew.Staffed 0 ∧ 0 < r.crew.pool.taken := by
  intro r
  have opened : threeByTwo.opening? clockStart = .ok (.ofSizes 2 2, .leasing) := rfl
  obtain ⟨h, schedule⟩ := leads_look evenSucceed 2 (begin evenSucceed threeByTwo .never ())
  obtain ⟨-, within⟩ := opens_within_bounds evenSucceed threeByTwo clockStart .never ()
  obtain ⟨-, -, staffed⟩ := within _ _ opened
  obtain ⟨staffed, taken⟩ := staffed h r schedule
  have running : r.crew.tasks.length = 2 := by decide +kernel
  refine ⟨opened, staffed, taken (.inl ?_)⟩
  intro none
  rw [none] at running
  cases running

/-- A fixed crew of more workers than a pool can have. -/
def tooLargeCrew : Profile :=
  { Profile.defaults with
    executor := { defaults with kind := .fixedIterations, workers := Pool.mostWorkers + 1 } }

/-- A constant rate for as long as can be configured. -/
def endlessRate : Profile :=
  { Profile.defaults with executor := { defaults with duration := .longest } }

/-- Nothing is wrong with either profile, and both break down. -/
theorem accepted_profiles_break_down :
    tooLargeCrew.fault? = none ∧
      tooLargeCrew.executor.opening? clockStart = .error (.breakdown .tooManyWorkers) ∧
      endlessRate.fault? = none ∧
      endlessRate.executor.opening? clockStart = .error (.breakdown .deadlineTooFar) :=
  ⟨Option.isNone_iff_eq_none.mp (by decide +kernel), rfl,
    Option.isNone_iff_eq_none.mp (by decide +kernel), rfl⟩

end ExecutorSettings

end LoadHarness
