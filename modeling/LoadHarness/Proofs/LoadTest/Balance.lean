import LoadHarness.Proofs.Executor.Coverage
import LoadHarness.Proofs.LoadTest.Recordings
import LoadHarness.Proofs.Metrics.Accumulation

/-!
# The balance of a snapshot

The series of a run count the same things from several sides. Every exchange is one request,
one latency, one step and two checks; a failed request is a failed step, and a failed step ends
its iteration. An iteration completes only after all of its steps have passed. So the numbers
of a snapshot balance, whoever was started, answered, dropped or ended from outside, and in
whatever order the recordings were made.
-/

namespace LoadHarness

variable {σ : Type}

/-- The numbers of a snapshot balance for iterations of so many steps. -/
structure Snapshot.Balanced (steps : Nat) (s : Snapshot) : Prop where
  stepPerRequest : s.requests = s.stepErrors.total
  outcomePerRequest : s.requests = s.requestFailures.total
  latencyPerRequest : s.requests = s.durations.count
  checksPerRequest : s.checks.total = 2 * s.requests
  passes : s.checks.hits = (s.checksByName.map (·.2.hits)).sum
  fails : s.checks.misses = (s.checksByName.map (·.2.misses)).sum
  failedRequests : s.requestFailures.hits ≤ s.stepErrors.hits
  failedSteps : s.stepErrors.hits ≤ s.failed
  passedSteps : s.completed * steps ≤ s.stepErrors.misses

/-! ## What holds of all recordings -/

/-- An observation adds what it weighs to one of the named rates. -/
theorem NamedRates.sum_observe (weight : Rate → Nat) (hit : Bool) (more : Nat)
    (empty : weight .empty = 0) (observe : ∀ r, weight (r.observe hit) = weight r + more)
    (rates : NamedRates) (name : String) :
    ((rates.observe name hit).map fun x => weight x.2).sum =
      (rates.map fun x => weight x.2).sum + more := by
  induction rates with
  | nil => simp [NamedRates.observe, observe, empty]
  | cons first rest ih =>
      obtain ⟨key, rate⟩ := first
      simp only [NamedRates.observe]
      split
      · simp only [List.map_cons, List.sum_cons, observe]
        omega
      · simp only [List.map_cons, List.sum_cons, ih]
        omega

/-- Requests have latencies, and checks have names. -/
structure Series.Named (s : Series) : Prop where
  latencies : s.durations.count = s.requestFailures.total
  passes : s.checks.hits = (s.checksByName.map (·.2.hits)).sum
  fails : s.checks.misses = (s.checksByName.map (·.2.misses)).sum

theorem Series.Named.record {s : Series} (named : s.Named) (r : Recording) :
    (s.record r).Named := by
  obtain ⟨latencies, passes, fails⟩ := named
  cases r with
  | request step status expected latency =>
      refine ⟨?_, passes, fails⟩
      simp [Series.record, latencies]
  | check name passed =>
      cases passed with
      | true =>
          refine ⟨latencies, ?_, ?_⟩
          · have more := NamedRates.sum_observe Rate.hits true 1 rfl (fun _ => rfl)
              s.checksByName name
            simp only [Series.record]
            rw [more, ← passes]
            rfl
          · have more := NamedRates.sum_observe Rate.misses true 0 rfl (fun _ => rfl)
              s.checksByName name
            simp only [Series.record]
            rw [more, ← fails]
            rfl
      | false =>
          refine ⟨latencies, ?_, ?_⟩
          · have more := NamedRates.sum_observe Rate.hits false 0 rfl (fun _ => rfl)
              s.checksByName name
            simp only [Series.record]
            rw [more, ← passes]
            rfl
          · have more := NamedRates.sum_observe Rate.misses false 1 rfl (fun _ => rfl)
              s.checksByName name
            simp only [Series.record]
            rw [more, ← fails]
            rfl
  | iteration completed => cases completed <;> exact ⟨latencies, passes, fails⟩
  | step | dropped | active | allocated => exact ⟨latencies, passes, fails⟩

theorem Series.named_ofRecordings (rs : List Recording) : (ofRecordings rs).Named := by
  induction rs using List.reverseRecOn with
  | nil => exact ⟨rfl, rfl, rfl⟩
  | append_singleton rs r ih =>
      rw [ofRecordings, List.foldl_concat]
      exact ih.record r

/-! ## What holds of the observed steps -/

/-- Two checks are made of every exchange. -/
theorem RunState.observe_checks (f : RunState σ) (a : Awaiting) (answer : Answer)
    (latency : Duration)
    (pairs : f.metrics.series.checks.total = 2 * f.metrics.series.requestFailures.total) :
    (f.observe a answer latency).metrics.series.checks.total =
      2 * (f.observe a answer latency).metrics.series.requestFailures.total := by
  simp only [observe, RunMetrics.series_recordAll, Observation.ofAnswer_eq]
  cases a <;>
    simp [Check.ofStep, Awaiting.step, Observation.recording, Series.record, pairs] <;> omega

/-- The steps that a waiting iteration has passed for certain. -/
def Pending.earned : Pending → Nat
  | .answer a _ _ => a.passed
  | .silence a => a.passed
  | .crash => 0

/-- The steps that an iteration has passed for certain. -/
def Progress.earned (settings : ScenarioSettings) : Progress → Nat
  | .awaiting a => a.passed
  | .finished (.ok _) => (Step.enabled settings).length
  | .finished (.error _) => 0

namespace RunMetrics

/-- The steps that have passed. -/
def passedSteps (m : RunMetrics) : Nat := m.series.stepErrors.misses

/-- The steps of the iterations that have completed. -/
def completedSteps (settings : ScenarioSettings) (m : RunMetrics) : Nat :=
  m.series.completed * (Step.enabled settings).length

end RunMetrics

namespace Pending

variable (settings : ScenarioSettings) (target : Target σ) (iteration : Nat)

/-- An iteration completes only with its last step. -/
theorem earned_advance (a : Awaiting) (body : JsonValue) :
    (a.advance settings iteration body).earned settings ≤ a.passed + 1 := by
  cases a with
  | login | createPoint => exact Nat.le_refl _
  | listPoints token pointId =>
      simp only [Awaiting.advance]
      split
      · exact Nat.le_refl _
      · next plain =>
        rw [Progress.earned, Step.enabled, if_neg plain]
        exact Nat.le_refl _
  | listOptimized token pointId listed =>
      simp only [Awaiting.advance, Progress.earned, Step.enabled]
      split
      · exact Nat.le_refl _
      · exact Nat.le_succ _

/-- A step that passes is paid for when it is observed. -/
theorem covers_observe {f : RunState σ} {m : RunMetrics} {kept : Nat} (a : Awaiting)
    (answer : Answer) (latency : Duration)
    (rest : (f.observe a answer latency).metrics.passedSteps + m.completedSteps settings + kept ≤
      m.passedSteps + (f.observe a answer latency).metrics.completedSteps settings +
        (a.resume settings iteration answer).earned settings) :
    f.metrics.passedSteps + m.completedSteps settings + kept ≤
      m.passedSteps + f.metrics.completedSteps settings + a.passed := by
  obtain ⟨completed, -, -, steps⟩ := f.observe_series a answer latency
  simp only [RunMetrics.passedSteps, RunMetrics.completedSteps, completed, steps] at rest ⊢
  cases accepted : a.step.accepts answer with
  | true =>
      have advanced := earned_advance settings iteration a (answer.value?.getD .null)
      rw [Awaiting.resume_of_accepts settings iteration accepted] at rest
      simp only [accepted, Rate.observe, Bool.not_true, Bool.false_eq_true, if_false] at rest
      omega
  | false =>
      rw [Awaiting.resume_of_refuses settings iteration accepted] at rest
      simp only [accepted, Rate.observe, Bool.not_false, if_true, Progress.earned] at rest
      omega

/-- A turn pays for the steps that it passes. -/
theorem covers_proceed (f : RunState σ) (p : Progress) :
    f.metrics.passedSteps +
        (proceed settings target iteration f p).1.metrics.completedSteps settings +
        earnedIn earned (proceed settings target iteration f p).2.state? ≤
      (proceed settings target iteration f p).1.metrics.passedSteps +
        f.metrics.completedSteps settings + p.earned settings := by
  fun_induction proceed settings target iteration f p with
  | case1 f outcome =>
      cases outcome with
      | ok summary =>
          have more : (f.record (.iteration true)).metrics.completedSteps settings =
              f.metrics.completedSteps settings + (Step.enabled settings).length :=
            Nat.succ_mul _ _
          show f.metrics.passedSteps +
              (f.record (.iteration true)).metrics.completedSteps settings + 0 ≤
            f.metrics.passedSteps + f.metrics.completedSteps settings +
              (Step.enabled settings).length
          omega
      | error failure => exact Nat.le_refl _
  | case2 f a f' given latency bound sent rest =>
      rw [← RunState.send_metrics sent]
      exact covers_observe settings iteration a given latency rest
  | case3 f a f' given delay latency sent | case6 f a f' sent =>
      rw [← RunState.send_metrics sent]
      exact Nat.le_refl _
  | case4 f a f' sent | case5 f a f' delay sent =>
      rw [← RunState.send_metrics sent]
      exact Nat.le_add_right _ _

/-- Iterations complete only with steps that have passed. -/
theorem covers (watched : Bool) :
    (Workload.ofScenario settings target watched).Covers (fun f => f.metrics.passedSteps)
      (fun f => f.metrics.completedSteps settings) earned where
  resume now i f state := by
    cases state with
    | none => exact covers_proceed settings target i f (.awaiting .login)
    | some pending =>
        cases pending with
        | answer a answer latency =>
            exact covers_observe settings i a answer latency
              (covers_proceed settings target i _ _)
        | crash | silence => exact Nat.le_refl _
  abandon now i f state := Nat.le_add_right _ _
  notice now f n := by
    cases watched with
    | true => cases n <;> exact Nat.le_refl _
    | false => exact Nat.le_refl _

/-- A failed step ends its iteration in the same turn. -/
theorem failedSteps_keeps (watched : Bool) :
    (Workload.ofScenario settings target watched).Keeps
      (fun f => f.metrics.series.stepErrors.hits ≤ f.metrics.series.failed) fun _ => True where
  resume now i f state kept _ := by
    refine ⟨?_, fun _ _ => trivial⟩
    generalize resumed : (Workload.ofScenario settings target watched).resume now i f state = turned
    obtain ⟨f', next⟩ := turned
    have told := told_resume settings target watched now (t := ⟨i, state⟩) resumed
    have hits := told.hits
    have failed := told.failed
    have once : next.ends (· = .failed) ≤ next.ends (· ≠ .completed) := by
      cases next with
      | finish e => cases e <;> simp [Next.ends]
      | wait | waitForEver => exact Nat.le_refl _
    show f'.metrics.series.stepErrors.hits ≤ f'.metrics.series.failed
    omega
  abandon now i f state kept := Nat.le_succ_of_le kept
  notice now f n kept := by
    cases watched with
    | true => cases n <;> exact kept
    | false => exact kept

end Pending

/-! ## The balance -/

/-- An iteration that did not complete failed a step, unless it was ended from outside or
crashed. -/
theorem History.endedBy_failed (h : History)
    (none : endedBy (fun e => e = .aborted ∨ e = .crashed) h = 0) :
    endedBy (· ≠ .completed) h = endedBy (· = .failed) h := by
  simp only [endedBy] at none ⊢
  generalize endings h = ends at none ⊢
  induction ends with
  | nil => rfl
  | cons x rest ih =>
      obtain ⟨i, e⟩ := x
      simp only [List.countP_cons] at none ⊢
      rw [ih (by omega)]
      cases e <;> simp at none ⊢

namespace Series

variable {s : Series} {rs rs' : List Recording} {steps : Nat}

/-- What the moves of a crew keep of its series. -/
structure Kept (steps : Nat) (s : Series) : Prop where
  matched : s.Matched
  pairs : s.checks.total = 2 * s.requestFailures.total
  failedSteps : s.stepErrors.hits ≤ s.failed
  passedSteps : s.completed * steps ≤ s.stepErrors.misses

/-- It does not depend on the order of recordings. -/
theorem Kept.perm (kept : (ofRecordings rs).Kept steps) (perm : rs'.Perm rs) :
    (ofRecordings rs').Kept steps := by
  have requestFailures := Takes.requestFailures.perm perm
  have stepErrors := Takes.stepErrors.perm perm
  have checks := Takes.checks.perm perm
  have completed := Takes.completed.perm perm
  have failed := Takes.failed.perm perm
  obtain ⟨⟨total, hits⟩, pairs, failedSteps, passedSteps⟩ := kept
  rw [← requestFailures, ← stepErrors] at total hits
  rw [← checks, ← requestFailures] at pairs
  rw [← stepErrors, ← failed] at failedSteps
  rw [← completed, ← stepErrors] at passedSteps
  exact ⟨⟨total, hits⟩, pairs, failedSteps, passedSteps⟩

/-- A series of which that is known has a balanced snapshot. -/
theorem Kept.snapshot (kept : s.Kept steps) (named : s.Named) (errorSeries : String) :
    (s.snapshot errorSeries).Balanced steps where
  stepPerRequest := kept.matched.total
  outcomePerRequest := rfl
  latencyPerRequest := named.latencies.symm.trans (Trend.count_summary _).symm
  checksPerRequest := kept.pairs
  passes := named.passes
  fails := named.fails
  failedRequests := kept.matched.hits
  failedSteps := kept.failedSteps
  passedSteps := kept.passedSteps

end Series

/-- The metrics hold some recordings and nothing else. -/
theorem Workload.ofScenario_keeps_recordings (settings : ScenarioSettings) (target : Target σ)
    (watched : Bool) (fresh : RunMetrics) :
    (Workload.ofScenario settings target watched).Keeps
      (fun f => ∃ rs, f.metrics = fresh.recordAll rs) fun _ => True := by
  have more {m : RunMetrics} (rs : List Recording) (recorded : ∃ rs, m = fresh.recordAll rs) :
      ∃ rs', m.recordAll rs = fresh.recordAll rs' := by
    obtain ⟨before, rfl⟩ := recorded
    exact ⟨before ++ rs, List.foldl_append.symm⟩
  apply Workload.ofScenario_keeps (p := fun m => ∃ rs, m = fresh.recordAll rs)
  · intro f a answer latency recorded
    exact more _ recorded
  · intro m r _ recorded
    exact more [r] recorded

/-- Requests are as many as steps, of which they fail no more, and half as many as checks. -/
theorem Workload.ofScenario_keeps_matched (settings : ScenarioSettings) (target : Target σ)
    (watched : Bool) :
    (Workload.ofScenario settings target watched).Keeps
      (fun f => f.metrics.series.Matched ∧
        f.metrics.series.checks.total = 2 * f.metrics.series.requestFailures.total)
      fun _ => True := by
  apply Workload.ofScenario_keeps (p := fun m => m.series.Matched ∧
    m.series.checks.total = 2 * m.series.requestFailures.total)
  · rintro f a answer latency ⟨matched, pairs⟩
    exact ⟨f.observe_matched a answer latency matched, f.observe_checks a answer latency pairs⟩
  · rintro m r aside ⟨matched, pairs⟩
    obtain ⟨-, requests, steps⟩ := m.record_aside aside
    have checks : (m.record r).series.checks = m.series.checks := by
      cases r with
      | iteration completed => cases completed <;> rfl
      | dropped | active | allocated => rfl
      | request | check | step => cases aside
    refine ⟨⟨?_, ?_⟩, ?_⟩
    · rw [requests, steps, matched.total]
    · rw [requests, steps]
      exact matched.hits
    · rw [checks, requests, pairs]

namespace Crew

variable {settings : ScenarioSettings} {target : Target σ} {watched : Bool} {state : σ}
  {preAllocated size : Nat} {c : Crew (RunState σ) Pending} {h : History}

theorem kept_of_moves
    (chain : Chain (Move (.ofScenario settings target watched))
      (assemble (.ofScenario settings target watched)
        { target := state, metrics := .fresh settings.errorSeries, sent := [] }
        preAllocated size) h c) :
    c.world.metrics.series.Kept (Step.enabled settings).length := by
  have matched := (Workload.ofScenario_keeps_matched settings target watched).assembled
    ⟨⟨rfl, Nat.le_refl 0⟩, rfl⟩ chain
  have failed := (Pending.failedSteps_keeps settings target watched).assembled
    (Nat.le_refl 0) chain
  have covered := (Pending.covers settings target watched).assembled
    (Nat.le_of_eq (Nat.zero_mul _)) chain
  exact ⟨matched.world.1, matched.world.2, failed.world,
    Nat.le_trans (Nat.le_add_right _ _) covered⟩

/-- As many iterations failed as steps did, if none was ended from outside and none crashed. -/
theorem failed_of_moves
    (chain : Chain (Move (.ofScenario settings target watched))
      (assemble (.ofScenario settings target watched)
        { target := state, metrics := .fresh settings.errorSeries, sent := [] }
        preAllocated size) h c)
    (none : History.endedBy (fun e => e = .aborted ∨ e = .crashed) h = 0) :
    c.world.metrics.series.failed ≤ c.world.metrics.series.stepErrors.hits := by
  have start : Recorded watched _ [] :=
    .assemble settings target state preAllocated size
  have recorded : Recorded watched c h := by
    simpa using start.moves chain
  have failed := recorded.failed
  rw [History.endedBy_failed h none, ← recorded.hits] at failed
  omega

/-- The snapshot of a run balances, whatever the target did and whatever an executor started,
dropped or ended from outside, and in whatever order the recordings of the run were made. As
many iterations failed as steps did if none was ended from outside and none crashed. -/
theorem snapshot_balanced (settings : ScenarioSettings) (target : Target σ) (watched : Bool)
    (state : σ) (preAllocated size : Nat) (c : Crew (RunState σ) Pending) (h : History)
    (chain : Chain (Move (.ofScenario settings target watched))
      (assemble (.ofScenario settings target watched)
        { target := state, metrics := .fresh settings.errorSeries, sent := [] }
        preAllocated size) h c) :
    ∃ rs, c.world.metrics = (RunMetrics.fresh settings.errorSeries).recordAll rs ∧
      ∀ rs', rs'.Perm rs →
        let snapshot := ((RunMetrics.fresh settings.errorSeries).recordAll rs').snapshot
        snapshot.Balanced (Step.enabled settings).length ∧
          (History.endedBy (fun e => e = .aborted ∨ e = .crashed) h = 0 →
            snapshot.stepErrors.hits = snapshot.failed) := by
  have keeps := Workload.ofScenario_keeps_recordings settings target watched
    (.fresh settings.errorSeries)
  obtain ⟨rs, recorded⟩ := (keeps.assembled ⟨[], rfl⟩ chain).world
  have series : c.world.metrics.series = .ofRecordings rs := by
    rw [recorded, RunMetrics.series_recordAll]
    rfl
  refine ⟨rs, recorded, fun rs' perm => ?_⟩
  have kept := kept_of_moves chain
  rw [series] at kept
  have kept' := kept.perm perm
  simp only [RunMetrics.snapshot_recordAll]
  refine ⟨kept'.snapshot (Series.named_ofRecordings rs') _, fun none => ?_⟩
  have failed := failed_of_moves chain none
  rw [series, ← Series.Takes.failed.perm perm, ← Series.Takes.stepErrors.perm perm] at failed
  exact Nat.le_antisymm kept'.failedSteps failed

end Crew

/-- The snapshot of the run in which one iteration fails its login. -/
theorem LoadTest.snapshot_balanced_failingRun :
    ∃ h, Chain (Crew.Move (.ofScenario (ofDefaults brief).profile.scenario failing true))
        ((ofDefaults brief).begin failing () .never).crew h failingRun.crew ∧
      failingRun.crew.world.metrics.snapshot.Balanced 3 ∧
      failingRun.crew.world.metrics.snapshot.failed = 1 := by
  obtain ⟨h, run⟩ : ∃ h, (ofDefaults brief).RunsTo failing () .never h failingRun :=
    execute_runsTo failingRun_counts.1
  have moves := run.schedule.moves
  obtain ⟨rs, recorded, balanced⟩ := Crew.snapshot_balanced _ failing true () _ _ _ h moves
  refine ⟨h, moves, ?_, ?_⟩
  · rw [recorded]
    exact (balanced rs (.refl rs)).1
  · decide +kernel

end LoadHarness
