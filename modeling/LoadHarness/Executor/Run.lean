import LoadHarness.Executor.Crew
import LoadHarness.Executor.Report
import LoadHarness.Executor.Settings
import LoadHarness.Executor.Ticker

/-!
# Executor runs

An executor and its iterations take turns on one thread. The clock stands still while anyone
is ready and then moves to the next millisecond in which a timer is due. There the executor
looks first: at the shutdown signal, at its deadline, at its ticker. Then the woken iterations
take their turns, in the order in which they began to wait, and after them the new ones.
-/

namespace LoadHarness

/-- When shutdown is requested. -/
inductive Shutdown where
  | never
  | atOnce
  | after (d : Duration)

/-- What an executor waits for. -/
inductive Stage where
  /-- For the next tick, up to a deadline. -/
  | arriving (ticker : Ticker) (deadline : Duration)
  /-- For a free worker. -/
  | leasing
  /-- For the end of all iterations, or for shutdown. -/
  | settling
  /-- For the end of all iterations, up to a deadline. -/
  | draining (deadline : Duration)
  /-- For iterations that are being ended from outside. -/
  | aborting
  | finished

structure ExecutorRun (ω τ : Type) where
  settings : ExecutorSettings
  /-- Milliseconds since the start. -/
  now : Nat
  stage : Stage
  crew : Crew ω τ
  /-- Shutdown has been requested. -/
  stopped : Bool
  /-- The millisecond in which shutdown will be requested. -/
  stopAt : Option Nat
  /-- The one who will request shutdown is ready for a turn: for the first, in which the wait for
  that millisecond begins, or for the one that makes the request. -/
  stopReady : Bool
  /-- Nobody is left who could request shutdown. -/
  signalLost : Bool

namespace ExecutorRun

variable {ω τ : Type}

/-- Iterations that take their turns before the executor looks again. -/
def turnsInARow : Nat := 61

/-- Ticks or workers that an executor takes before it lets iterations run. One look may take
128 steps: each grant is a step, and before it a step goes to the signal for shutdown if that
can never be given, since it is then found out each time anew. -/
def grantsInARow (r : ExecutorRun ω τ) : Nat := if r.signalLost then 64 else 128

def time (r : ExecutorRun ω τ) : Duration := .ofMillis r.now

/-- Starts to end all iterations from outside. -/
def abort (r : ExecutorRun ω τ) : ExecutorRun ω τ :=
  { r with stage := .aborting, crew := r.crew.rouse }

/-- Looks whether the wait for the end of the iterations is over. -/
def settle (r : ExecutorRun ω τ) : ExecutorRun ω τ :=
  let r := { r with crew := r.crew.join }
  if r.crew.isIdle then { r with stage := .finished }
  else match r.stage with
    | .draining deadline => if deadline.timerMillis ≤ r.now then r.abort else r
    | _ => r

/-- Starts no more iterations and lets the running ones go on for the graceful stop. -/
def drain (r : ExecutorRun ω τ) : ExecutorRun ω τ :=
  { r with
    stage := .draining (r.time.afterWait r.settings.gracefulStop) }.settle

/-- Waits for the end of all iterations unless shutdown has been requested. -/
def settleOrDrain (r : ExecutorRun ω τ) : ExecutorRun ω τ :=
  let r := { r with stage := .settling }.settle
  match r.stage with
  | .settling => if r.stopped then r.drain else r
  | _ => r

/-- Takes a tick: starts an iteration if a worker is free, else drops the start. -/
def takeTick (w : Workload ω τ) (ticker : Ticker) (deadline : Duration) (r : ExecutorRun ω τ) :
    ExecutorRun ω τ :=
  let (_, ticker) := ticker.tick r.time
  let crew := r.crew.join
  { r with
    stage := .arriving ticker deadline
    crew := if crew.pool.isFull then crew.drop w r.time else crew.start w r.time }

/-- Lets the executor look and act, up to a number of ticks or workers. -/
def look (w : Workload ω τ) : Nat → ExecutorRun ω τ → ExecutorRun ω τ
  | 0, r => r
  | grants + 1, r =>
    match r.stage with
    | .arriving ticker deadline =>
      if r.stopped ∨ deadline.timerMillis ≤ r.now then r.drain
      else if ticker.isDue r.time then look w grants (r.takeTick w ticker deadline)
      else r
    | .leasing =>
      if r.settings.iterations ≤ r.crew.started then r.settleOrDrain
      else if r.stopped then { r with crew := r.crew.unwant }.settleOrDrain
      else if r.crew.handed then
        look w grants { r with crew := r.crew.join.startHanded w r.time }
      else if r.crew.pool.isFull then { r with crew := { r.crew with wanted := true } }
      else look w grants { r with crew := r.crew.join.start w r.time }
    | .settling => r.settleOrDrain
    | .draining _ => r.settle
    | .aborting => r.settle
    | .finished => r

/-- Whether the executor would go on if it looked now: a tick is due or a worker is free. -/
def isEager (r : ExecutorRun ω τ) : Bool :=
  match r.stage with
  | .arriving ticker _ => ticker.isDue r.time
  | .leasing => r.crew.handed || !r.crew.pool.isFull
  | .settling | .draining _ | .aborting => r.crew.isIdle
  | .finished => false

/-- Gives the first ready iteration its turn, or ends it if the executor gave up waiting. -/
def runFirst (w : Workload ω τ) (r : ExecutorRun ω τ) : ExecutorRun ω τ :=
  match r.stage with
  | .aborting => { r with crew := r.crew.abortFirst w r.time }
  | _ => { r with crew := r.crew.runFirst w r.time }

/-- Requests shutdown if it is time, else goes on waiting. -/
def requestStop (r : ExecutorRun ω τ) : ExecutorRun ω τ :=
  if r.stopAt.any (· ≤ r.now) then
    { r with stopReady := false, stopAt := none, stopped := true }
  else { r with stopReady := false }

/-- Gives the one who requests shutdown and then the ready iterations their turns. -/
def runReady (w : Workload ω τ) : Nat → ExecutorRun ω τ → ExecutorRun ω τ
  | 0, r => r
  | n + 1, r =>
    if r.stopReady then runReady w n r.requestStop
    else if r.crew.ready.isEmpty then r
    else runReady w n (r.runFirst w)

/-- The next millisecond in which a timer of the executor is due. -/
def nextTimer? (r : ExecutorRun ω τ) : Option Nat :=
  match r.stage with
  | .arriving ticker deadline => some (min ticker.next.timerMillis deadline.timerMillis)
  | .draining deadline => some deadline.timerMillis
  | .leasing | .settling | .aborting | .finished => none

/-- The next millisecond in which anything is due. -/
def nextInstant? (r : ExecutorRun ω τ) : Option Nat :=
  ([r.nextTimer?, r.crew.nextWake?, r.stopAt].filterMap id).min?

/-- Moves the clock forward and wakes everyone whose time has come. -/
def moveTo (instant : Nat) (r : ExecutorRun ω τ) : ExecutorRun ω τ :=
  let now := max r.now instant
  { r with
    now
    crew := r.crew.wake now
    stopReady := r.stopReady || r.stopAt.any (· ≤ now) }

/-- Moves the clock to the next due millisecond. -/
def advance (r : ExecutorRun ω τ) : ExecutorRun ω τ :=
  match r.nextInstant? with
  | none => r
  | some instant => r.moveTo instant

def isFinished (r : ExecutorRun ω τ) : Bool :=
  match r.stage with
  | .finished => true
  | _ => false

/-- The executor looks and ready iterations take their turns; tells whether there is more to do
before the clock may move. -/
def work (w : Workload ω τ) (r : ExecutorRun ω τ) : ExecutorRun ω τ × Bool :=
  let r := r.look w r.grantsInARow
  if r.isFinished then (r, false)
  else
    let more := r.stopReady || !r.crew.ready.isEmpty || r.isEager
    (r.runReady w turnsInARow, more)

/-- One round of work; when nobody is ready any more the clock moves. -/
def round (w : Workload ω τ) (r : ExecutorRun ω τ) : ExecutorRun ω τ :=
  let (r, more) := r.work w
  if more || r.isFinished then r else r.advance

/-- Rounds up to the end of the run. -/
def rounds (w : Workload ω τ) : Nat → ExecutorRun ω τ → ExecutorRun ω τ
  | 0, r => r
  | n + 1, r => if r.isFinished then r else rounds w n (r.round w)

/-- The greatest number of starts that the settings ask for. -/
def starts (s : ExecutorSettings) : Nat :=
  match s.kind with
  | .constantArrivalRate =>
    s.duration.nanos / (Ticker.paced s.rate s.timeUnit).period.nanos + 2
  | .fixedIterations => s.iterations

/-- Rounds that are enough for a run of iterations that end. -/
def roundBound (w : Workload ω τ) (s : ExecutorSettings) : Nat :=
  16 + 8 * (starts s + 1) * (w.waits + 4)

/-- An executor at its start. -/
def begin (w : Workload ω τ) (s : ExecutorSettings) (shutdown : Shutdown) (world : ω) :
    ExecutorRun ω τ :=
  let stage := match s.kind with
    | .constantArrivalRate => .arriving (.paced s.rate s.timeUnit) s.duration
    | .fixedIterations => .leasing
  { settings := s
    now := 0
    stage
    crew := .assemble w world s.poolSizes.1 s.poolSizes.2
    stopped := match shutdown with
      | .atOnce => true
      | _ => false
    stopAt := match shutdown with
      | .after d => some d.asWait.timerMillis
      | _ => none
    stopReady := match shutdown with
      | .after _ => true
      | _ => false
    signalLost := match shutdown with
      | .never => true
      | _ => false }

/-- Runs an executor to its end. -/
def execute (w : Workload ω τ) (s : ExecutorSettings) (shutdown : Shutdown) (world : ω) :
    ExecutorRun ω τ :=
  rounds w (roundBound w s) (begin w s shutdown world)

/-- The report at the end of a run. -/
def report (r : ExecutorRun ω τ) : ExecutorReport :=
  { executor := r.settings.kind.name
    started := r.crew.started
    completed := r.crew.tally.completed
    failed := r.crew.tally.failed
    dropped := r.crew.dropped
    peakWorkers := r.crew.pool.peak
    allocatedWorkers := r.crew.pool.allocated
    elapsed := r.time }

end ExecutorRun

end LoadHarness
