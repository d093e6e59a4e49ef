import LoadHarness.Proofs.Scenario.Ensemble

/-!
# What is observed of an iteration

A step is told as one exchange, its checks in their order and its outcome. An iteration fails with
the first step that is told failed. Nothing is told afterwards, and the failure says no more and no
less than was told of that step. What is read of an accepted answer is always there: an iteration
that looks once more whether it is there goes on in the same way.
-/

namespace LoadHarness

namespace Observation

/-- The status that is told of an exchange. -/
def status? : Observation → Option Nat
  | .request _ status _ => some status
  | .check .. | .step .. => none

/-- The name of a check that is told not to have passed. -/
def failedCheck? : Observation → Option String
  | .check _ name passed => if passed then none else some name
  | .request .. | .step .. => none

/-- A step is told to have failed. -/
def isFailedStep : Observation → Bool
  | .step _ failed => failed
  | .request .. | .check .. => false

/-- What is told of one step: one exchange, with the status of the response or zero without one;
each check of the step, in order; and at the end whether one of them did not pass. -/
structure TellStep (s : Step) (answer : Answer) (told : List Observation) : Prop where
  shape : ∃ latency failed,
    told = request s answer.status latency
        :: (Check.ofStep s).map (fun c => check s c.name (c.passes answer.status answer.value?))
        ++ [step s failed] ∧
      (failed = true ↔ ∃ c ∈ Check.ofStep s, c.passes answer.status answer.value? = false)

theorem tellStep_ofAnswer (s : Step) (answer : Answer) (latency : Duration) :
    TellStep s answer (ofAnswer s answer latency) := by
  refine ⟨latency, !s.accepts answer, ofAnswer_eq s answer latency, ?_⟩
  rw [Bool.not_eq_true', Step.accepts, List.all_eq_false]
  simp only [Bool.not_eq_true]

/-! ## What one step adds -/

section

variable (s : Step) (answer : Answer) (latency : Duration)

theorem getLast_ofAnswer :
    (ofAnswer s answer latency).getLast? = some (step s (!s.accepts answer)) := by
  rw [ofAnswer_eq]
  exact List.getLast?_concat

theorem statuses_ofAnswer :
    (ofAnswer s answer latency).filterMap status? = [answer.status] := by
  cases s with
  | login | createPoint | listPoints | listOptimized => rfl

theorem failedChecks_ofAnswer :
    (ofAnswer s answer latency).filterMap failedCheck? = Awaiting.failedChecks s answer := by
  have outcome : [step s (!s.accepts answer)].filterMap failedCheck? = [] := rfl
  have exchange : failedCheck? (request s answer.status latency) = none := rfl
  rw [ofAnswer_eq, List.filterMap_append, outcome, List.append_nil,
    List.filterMap_cons_none exchange, Awaiting.failedChecks]
  generalize Check.ofStep s = checks
  induction checks with
  | nil => rfl
  | cons c rest ih =>
      cases passes : c.passes answer.status answer.value? with
      | true => simpa [failedCheck?, passes] using ih
      | false => simpa [failedCheck?, passes] using ih

theorem failures_ofAnswer :
    (ofAnswer s answer latency).countP isFailedStep = (!s.accepts answer).toNat := by
  cases accepts : s.accepts answer with
  | false | true => cases s <;> simp [ofAnswer_eq, accepts, Check.ofStep, isFailedStep]

theorem outcome_of_mem {s' : Step} {failed : Bool}
    (mem : step s' failed ∈ ofAnswer s answer latency) :
    s' = s ∧ failed = !s.accepts answer := by
  rw [ofAnswer_eq] at mem
  simpa using mem

end

end Observation

/-- A failure says what was told of the step that failed. -/
structure StepFailure.Told (f : StepFailure) (t : Transcript) : Prop where
  /-- The last thing that was told is that the step failed. -/
  last : t.observations.getLast? = some (.step f.step true)
  /-- The step was not told to have passed. -/
  unpassed : .step f.step false ∉ t.observations
  status : (t.observations.filterMap Observation.status?).getLast? = some f.status
  failedChecks : t.observations.filterMap Observation.failedCheck? = f.failedChecks
  some_check : f.failedChecks ≠ []
  in_order : f.failedChecks.Sublist ((Check.ofStep f.step).map (·.name))
  /-- There is a reason exactly if there was no response, and then every check failed. -/
  reason : ∃ e, t.exchanges.getLast? = some e ∧ e.request.step = f.step ∧
    ((∃ status body, e.answer = .response status body ∧ f.status = status ∧ f.reason = none) ∨
      ∃ error, e.answer = .failure error ∧ f.status = 0 ∧ f.reason = some error.message ∧
        f.failedChecks = (Check.ofStep f.step).map (·.name))

/-- The result of an iteration follows from what was told of its steps. -/
structure Transcript.Told (t : Transcript) : Prop where
  /-- Each exchange was told as a step. -/
  steps : ∃ told, t.observations = told.flatten ∧
    List.Forall₂ (fun (e : Exchange) os => Observation.TellStep e.request.step e.answer os)
      t.exchanges told
  /-- It failed exactly if a step was told to have failed, which happens at most once. -/
  fails : (∃ f, t.outcome = .error f) ↔ t.observations.countP Observation.isFailedStep = 1
  once : t.observations.countP Observation.isFailedStep ≤ 1
  failure : ∀ f, t.outcome = .error f → f.Told t

namespace Transcript.Told

variable {e : Exchange} {t : Transcript}

theorem observations_cons (e : Exchange) (t : Transcript) :
    observations ⟨e :: t.exchanges, t.outcome⟩ =
      Observation.ofAnswer e.request.step e.answer e.latency ++ t.observations :=
  List.flatMap_cons

/-- Nothing is told before the first step, and nothing after a success. -/
theorem nil (summary : IterationSummary) : Told ⟨[], .ok summary⟩ where
  steps := ⟨[], rfl, .nil⟩
  fails := ⟨fun ⟨_, failed⟩ => (nomatch failed), nofun⟩
  once := Nat.zero_le 1
  failure _ failed := nomatch failed

/-- A step that accepts its answer adds nothing to a later failure. -/
theorem cons (accepts : e.request.step.accepts e.answer = true)
    (fresh : ∀ e' ∈ t.exchanges, e'.request.step ≠ e.request.step) (told : t.Told) :
    Told ⟨e :: t.exchanges, t.outcome⟩ := by
  have count : (observations ⟨e :: t.exchanges, t.outcome⟩).countP Observation.isFailedStep =
      t.observations.countP Observation.isFailedStep := by
    rw [observations_cons, List.countP_append, Observation.failures_ofAnswer, accepts]
    exact Nat.zero_add _
  refine ⟨?_, ?_, count ▸ told.once, fun f failed => ?_⟩
  · obtain ⟨steps, flat, each⟩ := told.steps
    refine ⟨_ :: steps, ?_, .cons (Observation.tellStep_ofAnswer _ _ e.latency) each⟩
    rw [observations_cons, flat, List.flatten_cons]
  · rw [count]
    exact told.fails
  · have later := told.failure f failed
    obtain ⟨last, ended, step, reason⟩ := later.reason
    refine ⟨?_, ?_, ?_, ?_, later.some_check, later.in_order, last, ?_, step, reason⟩
    · rw [observations_cons, List.getLast?_append, later.last]
      rfl
    · rw [observations_cons, List.mem_append, not_or]
      refine ⟨fun mem => ?_, later.unpassed⟩
      have same := (Observation.outcome_of_mem _ _ _ mem).1
      exact fresh last (List.mem_of_getLast? ended) (step.trans same)
    · rw [observations_cons, List.filterMap_append, List.getLast?_append, later.status]
      rfl
    · rw [observations_cons, List.filterMap_append, Observation.failedChecks_ofAnswer,
        later.failedChecks, List.isEmpty_iff.mp ((Awaiting.failedChecks_isEmpty _ _).trans accepts)]
      rfl
    · rw [List.getLast?_cons, ended]
      rfl

/-- Without a response no check passes. -/
theorem failedChecks_of_failure (s : Step) (error : TransportError) :
    Awaiting.failedChecks s (.failure error) = (Check.ofStep s).map (·.name) := by
  cases s with
  | login | createPoint | listPoints | listOptimized => rfl

/-- A step that refuses its answer is told as the failure says. -/
theorem refused (refuses : e.request.step.accepts e.answer = false) :
    Told ⟨[e], .error ⟨e.request.step, e.answer.status,
      Awaiting.failedChecks e.request.step e.answer, e.answer.reason?⟩⟩ := by
  have all (outcome : IterationOutcome) : observations ⟨[e], outcome⟩ =
      Observation.ofAnswer e.request.step e.answer e.latency :=
    List.flatMap_singleton ..
  have count (outcome : IterationOutcome) :
      (observations ⟨[e], outcome⟩).countP Observation.isFailedStep = 1 := by
    rw [all, Observation.failures_ofAnswer, refuses]
    rfl
  refine ⟨?_, ?_, Nat.le_of_eq (count _), fun f failed => ?_⟩
  · refine ⟨[_], ?_, .cons (Observation.tellStep_ofAnswer _ _ e.latency) .nil⟩
    rw [all, List.flatten_singleton]
  · exact ⟨fun _ => count _, fun _ => ⟨_, rfl⟩⟩
  · obtain rfl := Except.error.inj failed
    refine ⟨?_, ?_, ?_, ?_, ?_, ?_, e, rfl, rfl, ?_⟩
    · rw [all, Observation.getLast_ofAnswer, refuses]
      rfl
    · rw [all]
      intro mem
      have outcome := (Observation.outcome_of_mem _ _ _ mem).2
      rw [refuses] at outcome
      cases outcome
    · rw [all, Observation.statuses_ofAnswer]
      rfl
    · rw [all, Observation.failedChecks_ofAnswer]
    · intro none
      have accepted := (Awaiting.failedChecks_isEmpty _ _).symm.trans (List.isEmpty_iff.mpr none)
      cases refuses.symm.trans accepted
    · exact List.filter_sublist.map _
    · cases given : e.answer with
      | response status body => exact .inl ⟨status, body, rfl, rfl, rfl⟩
      | failure error =>
          exact .inr ⟨error, rfl, rfl, rfl, failedChecks_of_failure _ error⟩

end Transcript.Told

/-! ## What is read is there -/

/-- The failure of a step that passed its checks although what is read of its answer is missing. -/
def StepFailure.missingMember (s : Step) : StepFailure :=
  { step := s
    status := s.expectedStatus
    failedChecks := ((Check.ofStep s).drop 1).map (·.name)
    reason := none }

namespace Awaiting

variable {answer : Answer} {a : Awaiting} (settings : ScenarioSettings) (iteration : Nat)

/-- What follows a step whose checks the answer passed, for an iteration that fails if what it
reads of the answer is missing. -/
def advanceChecked (body : JsonValue) : Awaiting → Progress
  | login =>
    match body.memberText? "token" with
    | some token => .awaiting (createPoint token)
    | none => .finished (.error (.missingMember .login))
  | createPoint token =>
    match body.memberText? "id" with
    | some pointId => .awaiting (listPoints token pointId)
    | none => .finished (.error (.missingMember .createPoint))
  | listPoints token pointId => (listPoints token pointId).advance settings iteration body
  | listOptimized token pointId listed =>
    (listOptimized token pointId listed).advance settings iteration body

/-- Takes the awaited answer and looks once more for what it reads of it. -/
def resumeChecked (answer : Answer) (a : Awaiting) : Progress :=
  let failed := failedChecks a.step answer
  if failed.isEmpty then a.advanceChecked settings iteration (answer.value?.getD .null)
  else .finished (.error ⟨a.step, answer.status, failed, answer.reason?⟩)

/-- A truthy member that is asked for has a text. -/
theorem memberText_of_passes {check name : String}
    (passes : Check.passes ⟨check, .truthyMember name⟩ answer.status answer.value? = true) :
    ∃ text, (answer.value?.getD .null).memberText? name = some text := by
  simp only [Check.passes] at passes
  cases body : answer.value? with
  | none =>
      rw [body] at passes
      cases passes
  | some value =>
      cases member : value.member? name with
      | none =>
          rw [body, Option.bind_some, member] at passes
          cases passes
      | some found =>
          rw [body, Option.bind_some, member] at passes
          have truthy : found.isTruthy = true := passes
          simp only [Option.getD_some, JsonValue.memberText?, member, truthy, if_true]
          cases found with
          | string text => exact ⟨text, rfl⟩
          | null | bool | number | array | object => exact ⟨_, rfl⟩

/-- What is read of an accepted answer is there, so nothing fails for want of it. -/
theorem advanceChecked_of_accepts (accepts : a.step.accepts answer = true) :
    a.advanceChecked settings iteration (answer.value?.getD .null) =
      a.advance settings iteration (answer.value?.getD .null) := by
  cases a with
  | login =>
      simp only [Awaiting.step, Step.accepts, Check.ofStep, List.all_cons, Bool.and_eq_true]
        at accepts
      obtain ⟨token, read⟩ := memberText_of_passes accepts.2.1
      simp only [advanceChecked, advance, read, Option.getD_some]
  | createPoint token =>
      simp only [Awaiting.step, Step.accepts, Check.ofStep, List.all_cons, Bool.and_eq_true]
        at accepts
      obtain ⟨pointId, read⟩ := memberText_of_passes accepts.2.1
      simp only [advanceChecked, advance, read, Option.getD_some]
  | listPoints token pointId => rfl
  | listOptimized token pointId listed => rfl

theorem resumeChecked_eq (answer : Answer) (a : Awaiting) :
    a.resumeChecked settings iteration answer = a.resume settings iteration answer := by
  simp only [resumeChecked, resume]
  split
  · next passed =>
    exact advanceChecked_of_accepts settings iteration
      ((failedChecks_isEmpty _ _).symm.trans passed)
  · rfl

/-- An iteration does not fail with a step whose answer it accepts. -/
theorem advance_ne_error (body : JsonValue) (a : Awaiting) (f : StepFailure) :
    a.advance settings iteration body ≠ .finished (.error f) := by
  intro failed
  cases a with
  | login | createPoint | listOptimized => cases failed
  | listPoints token pointId =>
      simp only [advance] at failed
      split at failed <;> cases failed

/-- A request is one of the step whose answer is awaited. -/
theorem step_request (a : Awaiting) : (a.request settings).step = a.step := by
  cases a with
  | login | createPoint | listPoints | listOptimized => rfl

end Awaiting

namespace Transcript

variable {σ : Type} (settings : ScenarioSettings) (iteration : Nat) (service : Service σ)
  (state : σ)

/-- The steps of an iteration are distinct. -/
theorem steps_nodup :
    ((ofService settings iteration service state).2.exchanges.map (·.request.step)).Nodup := by
  have steps := Ensemble.steps_ofService settings iteration service state
  rw [requests, List.map_map] at steps
  refine steps.sublist.nodup ?_
  rw [Step.enabled]
  split <;> decide

variable {settings iteration}

/-- What was told of an iteration that goes on, and its result. -/
theorem told_complete (p : Progress) (running : ∀ f, p ≠ .finished (.error f))
    (distinct : ((p.complete settings iteration service state).2.exchanges.map
      (·.request.step)).Nodup) :
    (p.complete settings iteration service state).2.Told := by
  fun_induction Progress.complete settings iteration service state p with
  | case1 state outcome =>
      cases outcome with
      | ok summary => exact .nil summary
      | error f => exact absurd rfl (running f)
  | case2 state a request state' answer latency replied bound state'' rest completed ih =>
      rw [completed] at ih
      have step : request.step = a.step := Awaiting.step_request settings a
      cases accepts : a.step.accepts answer with
      | true =>
          have goesOn (f : StepFailure) :
              a.resume settings iteration answer ≠ .finished (.error f) := by
            rw [Awaiting.resume_of_accepts settings iteration accepts]
            exact Awaiting.advance_ne_error settings iteration _ a f
          obtain ⟨fresh, others⟩ := List.nodup_cons.mp distinct
          refine .cons (step ▸ accepts) (fun e mem same => fresh ?_) (ih goesOn others)
          exact List.mem_map.mpr ⟨e, mem, same⟩
      | false =>
          rw [Awaiting.resume_of_refuses settings iteration accepts, Progress.complete] at completed
          obtain ⟨-, rfl⟩ := Prod.mk.inj completed
          have told := Told.refused (e := ⟨request, answer, latency⟩) (step ▸ accepts)
          rwa [step] at told

variable (settings iteration)

/-- An iteration tells each of its steps as one exchange, its checks and its outcome; it fails
exactly if one step was told to have failed, and then says of that step what was told of it; and it
never misses what it reads of an answer that it accepted. -/
theorem told_ofService :
    (ofService settings iteration service state).2.Told ∧
      ∀ (a : Awaiting) (answer : Answer),
        a.resumeChecked settings iteration answer = a.resume settings iteration answer :=
  ⟨told_complete service state _ nofun (steps_nodup settings iteration service state),
    fun a answer => a.resumeChecked_eq settings iteration answer⟩

/-- A service that knows the login and nothing else. -/
def loginOnly : Service Unit := fun _ r =>
  match r.step with
  | .login => ((), .response 200 "\x7b\"token\": \"t\"\x7d".toUTF8, .zero)
  | .createPoint | .listPoints | .listOptimized => ((), .failure (.other "reset"), .zero)

theorem told_ofService_loginOnly :
    ∃ f, (ofService .defaults 7 loginOnly ()).2.outcome = .error f ∧
      (ofService .defaults 7 loginOnly ()).2.observations.getLast? =
        some (.step .createPoint true) ∧
      f.status = 0 ∧ f.failedChecks = ["pvz status 201", "pvz id present"] ∧
      f.reason = some "reset" := by
  obtain ⟨told, -⟩ := told_ofService .defaults 7 loginOnly ()
  have failedOnce : (ofService .defaults 7 loginOnly ()).2.observations.countP
      Observation.isFailedStep = 1 := by decide +kernel
  have failedChecks : (ofService .defaults 7 loginOnly ()).2.observations.filterMap
      Observation.failedCheck? = ["pvz status 201", "pvz id present"] := by decide +kernel
  have exchange : (ofService .defaults 7 loginOnly ()).2.exchanges.getLast?.map
      (fun e => (e.request.step, e.answer.reason?)) = some (.createPoint, some "reset") := by
    decide +kernel
  obtain ⟨f, outcome⟩ := told.fails.mpr failedOnce
  have failure := told.failure f outcome
  obtain ⟨e, ended, step, how⟩ := failure.reason
  rw [ended, Option.map_some, Option.some.injEq, Prod.mk.injEq] at exchange
  have last := failure.last
  rw [← step, exchange.1] at last
  refine ⟨f, outcome, last, ?_⟩
  rcases how with ⟨status, body, response, -, -⟩ | ⟨error, answer, none, reason, -⟩
  · rw [response] at exchange
    cases exchange.2
  · rw [answer] at exchange
    exact ⟨none, failure.failedChecks.symm.trans failedChecks, reason.trans exchange.2⟩

end Transcript

end LoadHarness
