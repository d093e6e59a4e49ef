import LoadHarness.Metrics.Recording
import LoadHarness.Scenario.Exchange

/-!
# Iterations

An iteration is a process that waits for the answer to its last request. Each answer is
checked; the first step with a failed check ends the iteration. What one iteration carries
from step to step is its own: its token, the created point and the length of its listing.
-/

namespace LoadHarness

/-- What an iteration reports while it runs. -/
inductive Observation where
  | request (step : Step) (status : Nat) (latency : Duration)
  | check (step : Step) (name : String) (passed : Bool)
  | step (step : Step) (failed : Bool)

namespace Observation

/-- The recording that the metrics of a run make of an observation. -/
def recording : Observation → Recording
  | .request s status latency => .request s.name status s.expectedStatus latency
  | .check _ name passed => .check name passed
  | .step s failed => .step s.name failed

/-- What is observed of one step: the exchange, its checks in order, the outcome. -/
def ofAnswer (s : Step) (answer : Answer) (latency : Duration) : List Observation :=
  let value := answer.value?
  let results := (Check.ofStep s).map fun c => (c.name, c.passes answer.status value)
  request s answer.status latency
    :: results.map (fun r => check s r.1 r.2)
    ++ [step s (results.any fun r => !r.2)]

end Observation

/-- What a successful iteration leaves. -/
structure IterationSummary where
  iteration : Nat
  pointId : String
  listed : Nat

/-- The result of an iteration: a summary, or the step that failed. -/
abbrev IterationOutcome := Except StepFailure IterationSummary

/-- The answer that an iteration waits for, and what it has learnt so far. -/
inductive Awaiting where
  | login
  | createPoint (token : String)
  | listPoints (token pointId : String)
  | listOptimized (token pointId : String) (listed : Nat)

/-- Where an iteration stands. -/
inductive Progress where
  | awaiting (next : Awaiting)
  | finished (outcome : IterationOutcome)

namespace Awaiting

/-- The step whose answer is awaited. -/
def step : Awaiting → Step
  | login => .login
  | createPoint _ => .createPoint
  | listPoints .. => .listPoints
  | listOptimized .. => .listOptimized

/-- The request whose answer is awaited. -/
def request (settings : ScenarioSettings) : Awaiting → Request
  | login => .login settings
  | createPoint token => .createPoint settings token
  | listPoints token _ => .list .listPoints settings token
  | listOptimized token _ _ => .list .listOptimized settings token

/-- The names of the checks of a step that an answer does not pass. -/
def failedChecks (step : Step) (answer : Answer) : List String :=
  ((Check.ofStep step).filter fun c => !c.passes answer.status answer.value?).map (·.name)

/-- What follows a step whose checks the answer passed. The checks have seen to it that the
member read from the body is there. -/
def advance (settings : ScenarioSettings) (iteration : Nat) (body : JsonValue) :
    Awaiting → Progress
  | login => .awaiting (createPoint ((body.memberText? "token").getD ""))
  | createPoint token => .awaiting (listPoints token ((body.memberText? "id").getD ""))
  | listPoints token pointId =>
    let listed := (body.items?.map List.length).getD 0
    if settings.optimizedListing then .awaiting (listOptimized token pointId listed)
    else .finished (.ok ⟨iteration, pointId, listed⟩)
  | listOptimized _ pointId listed => .finished (.ok ⟨iteration, pointId, listed⟩)

/-- Takes the awaited answer: an answer that does not pass the checks ends the iteration. -/
def resume (settings : ScenarioSettings) (iteration : Nat) (answer : Answer)
    (a : Awaiting) : Progress :=
  let failed := failedChecks a.step answer
  if failed.isEmpty then a.advance settings iteration (answer.value?.getD .null)
  else .finished (.error ⟨a.step, answer.status, failed, answer.reason?⟩)

/-- How many answers can follow the awaited one. -/
def following : Awaiting → Nat
  | login => 3
  | createPoint _ => 2
  | listPoints .. => 1
  | listOptimized .. => 0

end Awaiting

/-- How many answers an iteration can still take. -/
def Progress.remaining : Progress → Nat
  | .awaiting a => a.following + 1
  | .finished _ => 0

theorem Awaiting.remaining_resume_le (settings : ScenarioSettings) (iteration : Nat)
    (answer : Answer) (a : Awaiting) :
    (a.resume settings iteration answer).remaining ≤ a.following := by
  simp only [resume]
  split
  · cases a with
    | login => exact Nat.le_refl 3
    | createPoint token => exact Nat.le_refl 2
    | listPoints token pointId =>
      simp only [advance]
      split
      · exact Nat.le_refl 1
      · exact Nat.zero_le 1
    | listOptimized token pointId listed => exact Nat.le_refl 0
  · exact Nat.zero_le a.following

/-- One exchange of an iteration. -/
structure Exchange where
  request : Request
  answer : Answer
  latency : Duration

/-- What an iteration did: its exchanges and its result. -/
structure Transcript where
  exchanges : List Exchange
  outcome : IterationOutcome

namespace Transcript

def requests (t : Transcript) : List Request := t.exchanges.map (·.request)

def observations (t : Transcript) : List Observation :=
  t.exchanges.flatMap fun e => Observation.ofAnswer e.request.step e.answer e.latency

end Transcript

/-- A service with a state of its own: a request gets an answer after some time. -/
abbrev Service (σ : Type) := σ → Request → σ × Answer × Duration

/-- Goes on with an iteration against a service. -/
def Progress.complete {σ : Type} (settings : ScenarioSettings) (iteration : Nat)
    (service : Service σ) (state : σ) : Progress → σ × Transcript
  | .finished outcome => (state, ⟨[], outcome⟩)
  | .awaiting a =>
    let request := a.request settings
    let (state, answer, latency) := service state request
    have := a.remaining_resume_le settings iteration answer
    let (state, rest) :=
      complete settings iteration service state (a.resume settings iteration answer)
    (state, ⟨⟨request, answer, latency⟩ :: rest.exchanges, rest.outcome⟩)
termination_by p => p.remaining
decreasing_by exact Nat.lt_succ_of_le this

/-- Runs one iteration against a service. -/
def Transcript.ofService {σ : Type} (settings : ScenarioSettings) (iteration : Nat)
    (service : Service σ) (state : σ) : σ × Transcript :=
  Progress.complete settings iteration service state (.awaiting .login)

end LoadHarness
