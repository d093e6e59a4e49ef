import LoadHarness.Executor.Workload
import LoadHarness.Metrics.Basic
import LoadHarness.Scenario.Iteration

/-!
# The service under load

Iterations that an executor runs send their requests to one target. A target has a state of
its own and may do anything: answer after any time, never answer, or make the exchange crash.
Whatever it does, an iteration that took its first turn is recorded exactly once: with its
outcome, or as failed when it crashes or is ended from outside.
-/

namespace LoadHarness

/-- What becomes of a request. -/
inductive Reply where
  /-- An answer after some delay, with the latency that is measured. -/
  | answer (answer : Answer) (delay latency : Duration)
  | crash (delay : Duration)
  | silence

/-- A target with the state `σ`. -/
abbrev Target (σ : Type) := σ → Request → σ × Reply

/-- A request and the iteration that sent it. -/
structure Sent where
  iteration : Nat
  request : Request

/-- What the iterations of a run share. -/
structure RunState (σ : Type) where
  target : σ
  metrics : RunMetrics
  /-- The requests that were sent, the last one first. -/
  sent : List Sent

namespace RunState

variable {σ : Type}

def record (f : RunState σ) (r : Recording) : RunState σ := { f with metrics := f.metrics.record r }

/-- Records what is observed of a step. -/
def observe (f : RunState σ) (a : Awaiting) (answer : Answer) (latency : Duration) : RunState σ :=
  { f with
    metrics :=
      f.metrics.recordAll ((Observation.ofAnswer a.step answer latency).map (·.recording)) }

/-- Sends a request of an iteration. -/
def send (target : Target σ) (iteration : Nat) (f : RunState σ) (r : Request) :
    RunState σ × Reply :=
  let (state, reply) := target f.target r
  ({ f with target := state, sent := ⟨iteration, r⟩ :: f.sent }, reply)

/-- Takes note of what the executor tells. -/
def notice (f : RunState σ) : Notice → RunState σ
  | .workers active allocated => (f.record (.active active)).record (.allocated allocated)
  | .dropped => f.record (.dropped 1)

end RunState

/-- What an iteration waits for. -/
inductive Pending where
  | answer (a : Awaiting) (answer : Answer) (latency : Duration)
  | crash
  | silence (a : Awaiting)

namespace Pending

variable {σ : Type}

/-- Ends an iteration that completed or did not. -/
def finish (f : RunState σ) (outcome : IterationOutcome) : RunState σ × Next Pending :=
  match outcome with
  | .ok _ => (f.record (.iteration true), .finish .completed)
  | .error _ => (f.record (.iteration false), .finish .failed)

/-- Ends an iteration whose exchange crashed. -/
def fall (f : RunState σ) : RunState σ × Next Pending :=
  (f.record (.iteration false), .finish .crashed)

/-- Goes on with an iteration until it has to wait. -/
def proceed (settings : ScenarioSettings) (target : Target σ) (iteration : Nat) (f : RunState σ) :
    Progress → RunState σ × Next Pending
  | .finished outcome => finish f outcome
  | .awaiting a =>
    match f.send target iteration (a.request settings) with
    | (f, .answer given delay latency) =>
      if delay = .zero then
        have := a.remaining_resume_le settings iteration given
        proceed settings target iteration (f.observe a given latency)
          (a.resume settings iteration given)
      else (f, .wait delay (.answer a given latency))
    | (f, .crash delay) => if delay = .zero then fall f else (f, .wait delay .crash)
    | (f, .silence) => (f, .waitForEver (.silence a))
termination_by p => p.remaining
decreasing_by exact Nat.lt_succ_of_le this

end Pending

/-- The iterations of a run as a workload; without a watch the metrics learn nothing of
workers and dropped starts. -/
def Workload.ofScenario {σ : Type} (settings : ScenarioSettings) (target : Target σ)
    (watched : Bool) : Workload (RunState σ) Pending :=
  { resume := fun _ iteration f state =>
      match state with
      | none => Pending.proceed settings target iteration f (.awaiting .login)
      | some (.answer a answer latency) =>
        Pending.proceed settings target iteration (f.observe a answer latency)
          (a.resume settings iteration answer)
      | some .crash => Pending.fall f
      | some (.silence a) => (f, .waitForEver (.silence a))
    abandon := fun _ _ f _ => f.record (.iteration false)
    notice := fun _ f n => if watched then f.notice n else f
    waits := 4 }

/-! ## Scripted targets -/

/-- How often each step was answered. -/
structure Positions where
  login : Nat
  createPoint : Nat
  listPoints : Nat
  listOptimized : Nat

namespace Positions

def start : Positions := ⟨0, 0, 0, 0⟩

def get (p : Positions) : Step → Nat
  | .login => p.login
  | .createPoint => p.createPoint
  | .listPoints => p.listPoints
  | .listOptimized => p.listOptimized

def advance (p : Positions) : Step → Positions
  | .login => { p with login := p.login + 1 }
  | .createPoint => { p with createPoint := p.createPoint + 1 }
  | .listPoints => { p with listPoints := p.listPoints + 1 }
  | .listOptimized => { p with listOptimized := p.listOptimized + 1 }

end Positions

/-- A target that gives the replies of each step in turn, over and over again. -/
def Target.cyclic (replies : Step → List Reply) (exhausted : Reply) : Target Positions :=
  fun p r =>
    let row := replies r.step
    (p.advance r.step, (row[p.get r.step % row.length]?).getD exhausted)

end LoadHarness
