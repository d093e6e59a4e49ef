import LoadHarness.Executor.Pool
import LoadHarness.Executor.Timer

/-!
# Executor settings

Which executor starts the iterations and how: at a constant rate for some time, or a fixed
number over a fixed crew of workers.
-/

namespace LoadHarness

inductive ExecutorKind where
  | constantArrivalRate
  | fixedIterations
  deriving DecidableEq

namespace ExecutorKind

def name : ExecutorKind → String
  | constantArrivalRate => "constant-arrival-rate"
  | fixedIterations => "fixed-iterations"

def all : List ExecutorKind := [constantArrivalRate, fixedIterations]

end ExecutorKind

structure ExecutorSettings where
  kind : ExecutorKind
  /-- Starts in every time unit. -/
  rate : Nat
  timeUnit : Duration
  duration : Duration
  preAllocatedWorkers : Nat
  maxWorkers : Nat
  /-- How long running iterations may go on once no more are started. -/
  gracefulStop : Duration
  iterations : Nat
  workers : Nat

namespace ExecutorSettings

def defaults : ExecutorSettings :=
  { kind := .constantArrivalRate
    rate := 1000
    timeUnit := .ofSeconds 1
    duration := .ofSeconds 60
    preAllocatedWorkers := 100
    maxWorkers := 500
    gracefulStop := .ofSeconds 30
    iterations := 1
    workers := 1 }

/-- What makes settings unusable. -/
inductive Fault where
  | zeroRate
  | zeroTimeUnit
  | zeroDuration
  | zeroMaxWorkers
  | fewerWorkersThanAllocated (maxWorkers allocated : Nat)
  | zeroIterations

namespace Fault

def message : Fault → String
  | zeroRate => "executor rate must be greater than zero"
  | zeroTimeUnit => "executor time_unit must be greater than zero"
  | zeroDuration => "executor duration must be greater than zero"
  | zeroMaxWorkers => "executor max_workers must be greater than zero"
  | fewerWorkersThanAllocated maxWorkers allocated =>
    "executor max_workers (" ++ toString maxWorkers
      ++ ") must not be lower than pre_allocated_workers (" ++ toString allocated ++ ")"
  | zeroIterations => "fixed-iterations executor needs positive iterations and workers"

end Fault

/-- What makes an executor break down before its first start. -/
inductive Breakdown where
  | tooManyWorkers
  | deadlineTooFar
  deriving DecidableEq

def Breakdown.message : Breakdown → String
  | tooManyWorkers =>
    "a semaphore may not have more than MAX_PERMITS permits (" ++ toString Pool.mostWorkers ++ ")"
  | deadlineTooFar => "overflow when adding duration to instant"

/-- The workers set aside from the start and the most workers at once. -/
def poolSizes (s : ExecutorSettings) : Nat × Nat :=
  match s.kind with
  | .constantArrivalRate => (s.preAllocatedWorkers, s.maxWorkers)
  | .fixedIterations => (s.workers, s.workers)

/-- The breakdown that the settings lead to if the clock reads `begun` at the start: the pool
comes first, then the deadline, which only a constant rate has. -/
def breakdownAt? (begun : Duration) (s : ExecutorSettings) : Option Breakdown :=
  if Pool.mostWorkers < s.poolSizes.2 then some .tooManyWorkers
  else if s.kind = .constantArrivalRate ∧ (begun + s.duration).isInstant = false then
    some .deadlineTooFar
  else none

/-- What the clock reads at the start of a run; a second has passed. -/
def clockStart : Duration := .ofSeconds 1

/-- The breakdown that the settings lead to. -/
def breakdown? (s : ExecutorSettings) : Option Breakdown := s.breakdownAt? clockStart

/-- The first fault of the settings that the chosen executor looks at. -/
def fault? (s : ExecutorSettings) : Option Fault :=
  match s.kind with
  | .constantArrivalRate =>
    if s.rate = 0 then some .zeroRate
    else if s.timeUnit = .zero then some .zeroTimeUnit
    else if s.duration = .zero then some .zeroDuration
    else if s.maxWorkers = 0 then some .zeroMaxWorkers
    else if s.maxWorkers < s.preAllocatedWorkers then
      some (.fewerWorkersThanAllocated s.maxWorkers s.preAllocatedWorkers)
    else none
  | .fixedIterations =>
    if s.iterations = 0 ∨ s.workers = 0 then some .zeroIterations else none

end ExecutorSettings

end LoadHarness
