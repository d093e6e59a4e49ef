import LoadHarness.Proofs.Executor.Invariant
import LoadHarness.Proofs.LoadTest.Ledger
import LoadHarness.Proofs.Threshold.Defaults

/-!
# What the recordings of a run keep

Metrics change only by recordings. Those of requests, checks and steps are made together, when an
answer is observed; all others are made aside and change nothing that is known of requests and
steps. So what the observation of a step and every recording made aside keep is kept by a load
test, whoever takes turns.
-/

namespace LoadHarness

variable {σ : Type}

/-! ## Recordings made aside -/

/-- A recording that is made beside the observation of a step. -/
def Recording.isAside : Recording → Bool
  | .iteration _ | .dropped _ | .active _ | .allocated _ => true
  | .request .. | .check .. | .step .. => false

/-- It changes nothing that is known of requests and steps. -/
theorem RunMetrics.record_aside {r : Recording} (aside : r.isAside = true) (m : RunMetrics) :
    (m.record r).series.durations = m.series.durations ∧
      (m.record r).series.requestFailures = m.series.requestFailures ∧
      (m.record r).series.stepErrors = m.series.stepErrors := by
  cases r with
  | iteration completed => cases completed <;> exact ⟨rfl, rfl, rfl⟩
  | dropped | active | allocated => exact ⟨rfl, rfl, rfl⟩
  | request | check | step => cases aside

section

variable {p : RunMetrics → Prop}

theorem RunMetrics.recordAll_keeps (record : ∀ m r, p m → p (m.record r)) (m : RunMetrics)
    (rs : List Recording) (kept : p m) : p (m.recordAll rs) := by
  induction rs generalizing m with
  | nil => exact kept
  | cons r rest ih => exact ih (m.record r) (record m r kept)

theorem Pending.proceed_keeps
    (observe : ∀ (f : RunState σ) a answer latency, p f.metrics →
      p (f.observe a answer latency).metrics)
    (record : ∀ m completed, p m → p (m.record (.iteration completed)))
    (settings : ScenarioSettings) (target : Target σ) (iteration : Nat) (f : RunState σ)
    (progress : Progress) (kept : p f.metrics) :
    p (proceed settings target iteration f progress).1.metrics := by
  fun_induction proceed settings target iteration f progress with
  | case1 f outcome =>
      cases outcome with
      | ok | error => exact record _ _ kept
  | case2 f a f' given latency bound sent ih =>
      rw [← RunState.send_metrics sent] at kept
      exact ih (observe f' a given latency kept)
  | case4 f a f' sent =>
      rw [← RunState.send_metrics sent] at kept
      exact record _ _ kept
  | case3 f a f' given delay latency sent | case5 f a f' delay sent | case6 f a f' sent =>
      rw [← RunState.send_metrics sent] at kept
      exact kept

theorem RunState.notice_keeps (record : ∀ m r, r.isAside = true → p m → p (m.record r))
    (settings : ScenarioSettings) (target : Target σ) (watched : Bool) (now : Duration)
    (f : RunState σ) (n : Notice) (kept : p f.metrics) :
    p ((Workload.ofScenario settings target watched).notice now f n).metrics := by
  simp only [Workload.ofScenario]
  split
  · cases n with
    | workers => exact record _ _ rfl (record _ _ rfl kept)
    | dropped => exact record _ _ rfl kept
  · exact kept

/-- What the observation of a step and every other recording keep is kept by a load test. -/
theorem Workload.ofScenario_keeps
    (observe : ∀ (f : RunState σ) a answer latency, p f.metrics →
      p (f.observe a answer latency).metrics)
    (record : ∀ m r, r.isAside = true → p m → p (m.record r))
    (settings : ScenarioSettings) (target : Target σ) (watched : Bool) :
    (Workload.ofScenario settings target watched).Keeps (fun f => p f.metrics) fun _ => True where
  resume now i f state kept _ := by
    refine ⟨?_, fun _ _ => trivial⟩
    have ended (m : RunMetrics) (completed : Bool) : p m → p (m.record (.iteration completed)) :=
      record m _ rfl
    cases state with
    | none => exact Pending.proceed_keeps observe ended settings target i f _ kept
    | some pending =>
        cases pending with
        | answer a answer latency =>
            exact Pending.proceed_keeps observe ended settings target i _ _
              (observe f a answer latency kept)
        | crash => exact record _ _ rfl kept
        | silence => exact kept
  abandon now i f state kept := record _ _ rfl kept
  notice now f n kept := RunState.notice_keeps record settings target watched now f n kept

end

/-! ## Failed requests are failed steps -/

/-- There is one request to a step, and a step passes only if its request did not fail. -/
structure Series.Matched (s : Series) : Prop where
  total : s.requestFailures.total = s.stepErrors.total
  hits : s.requestFailures.hits ≤ s.stepErrors.hits

/-- A step accepts only the status of a success. -/
theorem Step.status_of_accepts {s : Step} {answer : Answer} (accepts : s.accepts answer = true) :
    answer.status = s.expectedStatus := by
  cases s with
  | login | createPoint | listPoints | listOptimized =>
      simp only [Step.accepts, Check.ofStep, List.all_cons, Bool.and_eq_true] at accepts
      exact beq_iff_eq.mp accepts.1

theorem RunState.observe_matched (f : RunState σ) (a : Awaiting) (answer : Answer)
    (latency : Duration) (matched : f.metrics.series.Matched) :
    (f.observe a answer latency).metrics.series.Matched := by
  obtain ⟨-, -, -, steps⟩ := f.observe_series a answer latency
  have requests : (f.observe a answer latency).metrics.series.requestFailures =
      f.metrics.series.requestFailures.observe (answer.status != a.step.expectedStatus) := by
    simp only [observe, RunMetrics.series_recordAll, Observation.ofAnswer_eq]
    cases a <;> rfl
  obtain ⟨total, hits⟩ := matched
  refine ⟨?_, ?_⟩
  · rw [requests, steps, Rate.total_observe, Rate.total_observe, total]
  · rw [requests, steps]
    cases accepted : a.step.accepts answer with
    | true =>
        rw [Step.status_of_accepts accepted, bne_self_eq_false]
        exact hits
    | false =>
        simp only [Rate.observe, Bool.not_false, if_true]
        split
        · exact Nat.succ_le_succ hits
        · exact Nat.le_succ_of_le hits

/-! ## A run that fails -/

namespace LoadTest

/-- A target whose every response is an error. -/
def failing : Target Unit := fun state _ =>
  (state, .answer (.response 500 ⟨#[]⟩) .zero .zero)

/-- One iteration in the one second that a run takes, and no time for it afterwards. -/
def brief : Profile :=
  { Profile.defaults with
    executor :=
      { ExecutorSettings.defaults with
        rate := 1
        duration := .ofSeconds 1
        gracefulStop := .zero } }

theorem ofProfile_brief : ofProfile brief = .ok (ofDefaults brief) :=
  ofProfile_of_defaults rfl rfl

/-- The run in which the one iteration fails its login. -/
def failingRun : ExecutorRun (RunState Unit) Pending :=
  (ofDefaults brief).execute failing () .never

theorem failingRun_counts :
    failingRun.isFinished = true ∧ failingRun.report.started = 1 ∧
      failingRun.report.completed = 0 ∧ failingRun.report.failed = 1 ∧
      failingRun.crew.world.metrics.series.stepErrors = ⟨1, 0⟩ := by
  decide +kernel

end LoadTest

end LoadHarness
