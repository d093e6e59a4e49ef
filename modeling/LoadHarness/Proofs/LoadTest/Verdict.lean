import LoadHarness.Proofs.LoadTest.Balance
import LoadHarness.Proofs.Metrics.FailureRate
import LoadHarness.Proofs.Metrics.LatencyLimit
import LoadHarness.Proofs.Metrics.Magnitude

/-!
# The verdict on runs in which nothing completes

The default thresholds judge what was observed of steps and requests. An iteration that failed
a step leaves a failed step behind; one that is ended from outside, or crashes, leaves only the
steps that it had passed. So a run fails its thresholds if enough of its iterations failed a
step or enough of its latencies were long, and a run in which nothing was ever answered passes
them.
-/

namespace LoadHarness

variable {σ : Type}

namespace LoadTest

variable {t : LoadTest} {target : Target σ} {state : σ} {shutdown : Shutdown} {h : History}
  {r : ExecutorRun (RunState σ) Pending}

theorem RunsTo.matched (run : t.RunsTo target state shutdown h r) :
    r.crew.world.metrics.series.Matched := by
  have keeps := Workload.ofScenario_keeps_matched t.profile.scenario target t.watched
  exact (keeps.schedule ⟨⟨rfl, Nat.le_refl 0⟩, rfl⟩ run.schedule).world.1

/-- The metrics of a run hold the recordings that were made in it. -/
theorem RunsTo.recordings (run : t.RunsTo target state shutdown h r) :
    ∃ rs, r.crew.world.metrics =
      (RunMetrics.fresh t.profile.scenario.errorSeries).recordAll rs := by
  have keeps := Workload.ofScenario_keeps_recordings t.profile.scenario target t.watched
    (.fresh t.profile.scenario.errorSeries)
  exact (keeps.schedule ⟨[], rfl⟩ run.schedule).world

/-- There is one latency to each step. -/
theorem RunsTo.latencies (run : t.RunsTo target state shutdown h r) {rs : List Recording}
    (recorded : r.crew.world.metrics =
      (RunMetrics.fresh t.profile.scenario.errorSeries).recordAll rs) :
    r.crew.world.metrics.series.durations = .ofLatencies (rs.filterMap Recording.latency?) ∧
      (rs.filterMap Recording.latency?).length =
        r.crew.world.metrics.series.stepErrors.total := by
  have series : r.crew.world.metrics.series = .ofRecordings rs := by
    rw [recorded, RunMetrics.series_recordAll]
    rfl
  have durations : r.crew.world.metrics.series.durations =
      .ofLatencies (rs.filterMap Recording.latency?) := by
    rw [series]
    exact Series.Takes.durations.ofRecordings rs
  refine ⟨durations, ?_⟩
  have requests := (Series.named_ofRecordings rs).latencies
  rw [← series, durations, Trend.count_ofLatencies] at requests
  exact requests.trans run.matched.total

theorem RunsTo.errorSeries (run : t.RunsTo target state shutdown h r) :
    r.crew.world.metrics.errorSeries = t.profile.scenario.errorSeries := by
  have record (m : RunMetrics) (r : Recording)
      (kept : m.errorSeries = t.profile.scenario.errorSeries) :
      (m.record r).errorSeries = t.profile.scenario.errorSeries := kept
  have keeps := Workload.ofScenario_keeps
    (fun f _ _ _ kept => RunMetrics.recordAll_keeps record f.metrics _ kept)
    (fun m r _ kept => record m r kept) t.profile.scenario target t.watched
  exact (keeps.schedule rfl run.schedule).world

/-- The threshold of the error series reads the rate of failed steps. -/
theorem RunsTo.rate_errorSeries {p : Profile} (made : ofProfile p = .ok t)
    (run : t.RunsTo target state shutdown h r) :
    r.crew.world.metrics.rate? p.scenario.errorSeries =
      some r.crew.world.metrics.series.stepErrors := by
  obtain ⟨fine, profile, -⟩ := ofProfile_eq made
  have named := run.errorSeries
  rw [profile] at named
  exact RunMetrics.rate_errorSeries (Profile.scenario_fine fine) named

theorem thresholds_of_defaults {p : Profile} (made : ofProfile p = .ok t)
    (defaults : p.thresholds = .defaults p.scenario.errorSeries) :
    t.thresholds = Threshold.defaults p.scenario.errorSeries := by
  have fine := (ofProfile_eq made).1
  rw [ofProfile_of_defaults fine defaults] at made
  exact (congrArg thresholds (Except.ok.inj made)).symm

/-! ## Enough failed steps -/

/-- At the end of a run no iteration has told more than four passed steps, and none that did not
complete more than three. -/
theorem RunsTo.steps_le (run : t.RunsTo target state shutdown h r) :
    r.crew.world.metrics.series.stepErrors.total ≤
      History.endedBy (· = .failed) h + 4 * r.report.completed + 3 * r.report.failed := by
  have recorded := run.recorded
  have empty := run.schedule.emptied run.finished
  have counted := run.schedule.counted run.finished
  have credit : r.crew.credit = 0 := by
    simp [Crew.credit, Crew.tasks, empty.ready, empty.sleeping]
  have completed : History.endedBy (· = .completed) h = r.report.completed :=
    (congrArg Tally.completed counted).symm
  have failed : History.endedBy (· ≠ .completed) h = r.report.failed :=
    (congrArg Tally.failed counted).symm
  have misses := recorded.misses
  rw [credit, completed, failed] at misses
  rw [Rate.total, recorded.hits]
  omega

/-- An iteration that failed a step did not complete. -/
theorem RunsTo.failed_le (run : t.RunsTo target state shutdown h r) :
    History.endedBy (· = .failed) h ≤ r.report.failed := by
  have counted := run.schedule.counted run.finished
  refine Nat.le_trans ?_ (Nat.le_of_eq (congrArg Tally.failed counted).symm)
  refine List.countP_mono_left fun x _ failed => ?_
  simp only [decide_eq_true_eq] at failed ⊢
  rw [failed]
  exact nofun

/-- No iteration has told more steps than there are. -/
theorem RunsTo.steps_le_started (run : t.RunsTo target state shutdown h r) :
    r.crew.world.metrics.series.stepErrors.total ≤ 4 * r.report.started := by
  have steps := run.steps_le
  have failed := run.failed_le
  have total : r.report.completed + r.report.failed = r.report.started :=
    run.schedule.total run.finished
  omega

/-- The default thresholds ask three things of a run. -/
theorem RunsTo.passed_eq {p : Profile} (made : ofProfile p = .ok t)
    (defaults : p.thresholds = .defaults p.scenario.errorSeries)
    (run : t.RunsTo target state shutdown h r) (document : String) (period : Period) :
    (t.reportOf document period r).passed =
      ((Threshold.judge r.crew.world.metrics .latencyLimit).passed &&
        (r.crew.world.metrics.series.requestFailures.ratio.lt Threshold.failureBound &&
          r.crew.world.metrics.series.stepErrors.ratio.lt Threshold.failureBound)) := by
  have requests : (Threshold.judge r.crew.world.metrics (.failureLimit "http_req_failed")).passed =
      r.crew.world.metrics.series.requestFailures.ratio.lt Threshold.failureBound :=
    Threshold.judge_failureLimit rfl
  rw [← Threshold.judge_failureLimit (run.rate_errorSeries made), ← requests]
  simp only [reportOf, thresholds_of_defaults made defaults, Threshold.defaults, List.map_cons,
    List.map_nil, List.all_cons, List.all_nil, Bool.and_true]

/-- Both rates stay below the failure bound exactly if fewer than one in ten thousand observed
steps failed: failed requests are failed steps. -/
theorem RunsTo.below_iff (run : t.RunsTo target state shutdown h r)
    (range : r.report.started < 2 ^ 51) :
    (r.crew.world.metrics.series.requestFailures.ratio.lt Threshold.failureBound &&
        r.crew.world.metrics.series.stepErrors.ratio.lt Threshold.failureBound) = true ↔
      History.endedBy (· = .failed) h = 0 ∨
        10000 * History.endedBy (· = .failed) h <
          r.crew.world.metrics.series.stepErrors.total := by
  have few : r.crew.world.metrics.series.stepErrors.total < 2 ^ Binary64.precision :=
    Nat.lt_of_le_of_lt run.steps_le_started (Nat.mul_lt_mul_of_pos_left range (by decide))
  have seldom := Rate.ratio_lt_failureBound_iff few
  rw [run.recorded.hits] at seldom
  rw [Bool.and_eq_true, ← seldom]
  constructor
  · intro below
    exact below.2
  · intro below
    exact ⟨Rate.ratio_lt_failureBound_of_le few run.matched.total run.matched.hits below, below⟩

/-- The bound on failed steps is reached if the iterations that failed a step are not too few
among those that did not complete. -/
theorem RunsTo.steps_not_below (run : t.RunsTo target state shutdown h r)
    (range : r.report.started < counterModulus) (noneCompleted : r.report.completed = 0)
    (someFailed : 0 < History.endedBy (· = .failed) h)
    (few : r.report.failed ≤ 3332 * History.endedBy (· = .failed) h ∨
      r.crew.world.metrics.series.stepErrors.total ≤ 9999 * History.endedBy (· = .failed) h) :
    r.crew.world.metrics.series.stepErrors.ratio.lt Threshold.failureBound = false := by
  have most := run.steps_le_started
  refine Rate.ratio_not_lt_failureBound (run.recorded.hits ▸ someFailed) ?_ ?_
  · rw [run.recorded.hits]
    rcases few with ends | told
    · have three := run.steps_le
      omega
    · exact told
  · have counters : 4 * counterModulus = 2 ^ 66 := by decide
    calc
      r.crew.world.metrics.series.stepErrors.total < 4 * counterModulus := by omega
      _ = 2 ^ 66 := counters
      _ < 2 ^ Binary64.countBits := Nat.pow_lt_pow_right (by decide) (by decide)

/-! ## Enough long latencies -/

section

variable {m : RunMetrics} {ls : List Duration}

theorem p95_eq (latencies : m.series.durations = .ofLatencies ls) :
    m.snapshot.durations.p95 = (Trend.ofLatencies ls).percentile (.ofNat 95) := by
  obtain ⟨-, -, p95, -⟩ := Trend.summary_eq (Trend.isFilled_ofLatencies ls)
  rw [p95, ← latencies]
  rfl

/-- The threshold of latencies is crossed exactly if the 95th percentile that is reported is at
least 100 milliseconds. -/
theorem judge_latencyLimit (latencies : m.series.durations = .ofLatencies ls) :
    (Threshold.judge m .latencyLimit).passed = false ↔
      (Binary64.ofNat 100).le m.snapshot.durations.p95 = true := by
  have numbers : Binary64.ofDecimal false 95 0 = .ofNat 95 ∧
      Binary64.ofDecimal false 100 0 = .ofNat 100 := by
    decide +kernel
  have hundred : Binary64.HasSteps (.ofNat 100) (100 * Binary64.unit) :=
    Binary64.HasSteps.ofNat (by decide)
  obtain ⟨n, has⟩ := Trend.percentile_hasSteps ls (p := .ofNat 95) (by decide +kernel)
    (by decide +kernel)
  rw [p95_eq latencies, ← has.not_lt_iff hundred]
  simp only [Threshold.judge, Threshold.latencyLimit, RunMetrics.observe, Comparison.holds,
    latencies, numbers]

/-- Of fewer than `2 ^ 48` latencies it is exactly if fewer than nineteen in twenty are below
99.968 milliseconds, where the bucket of the limit starts. -/
theorem hundred_le_p95_iff (latencies : m.series.durations = .ofLatencies ls)
    (few : ls.length < 2 ^ 48) :
    (Binary64.ofNat 100).le m.snapshot.durations.p95 = true ↔
      20 * ls.countP (·.micros < 99968) < 19 * ls.length := by
  rw [p95_eq latencies]
  exact Trend.hundred_le_percentile_iff_of_few few

end

/-- The verdict of the default thresholds on a run of fewer than `2 ^ 51` iterations: it does
not pass exactly if the 95th percentile that is reported is at least 100 milliseconds or at least
one in ten thousand observed steps failed. Of fewer than `2 ^ 46` iterations the percentile is that
long exactly if fewer than nineteen in twenty of the recorded latencies are below 99.968
milliseconds. A run in which no iteration completed does not pass if some iterations failed a step
and for each of them at most 3331 others crashed or were ended from outside, or at most 9998 steps
were passed. -/
theorem verdict_of_defaults (p : Profile) (t : LoadTest) (made : ofProfile p = .ok t)
    (defaults : p.thresholds = .defaults p.scenario.errorSeries) (target : Target σ) (state : σ)
    (shutdown : Shutdown) (h : History) (r : ExecutorRun (RunState σ) Pending)
    (run : t.RunsTo target state shutdown h r) (document : String) (period : Period) :
    let report := t.reportOf document period r
    let failures := History.endedBy (· = .failed) h
    let steps := r.crew.world.metrics.series.stepErrors.total
    (r.report.started < 2 ^ 51 →
      (report.passed = false ↔
        (Binary64.ofNat 100).le report.metrics.durations.p95 = true ∨
          0 < failures ∧ steps ≤ 10000 * failures)) ∧
    (∃ rs, r.crew.world.metrics = (RunMetrics.fresh p.scenario.errorSeries).recordAll rs ∧
      let latencies := rs.filterMap Recording.latency?
      (r.report.started < 2 ^ 46 →
        ((Binary64.ofNat 100).le report.metrics.durations.p95 = true ↔
          20 * latencies.countP (·.micros < 99968) < 19 * latencies.length))) ∧
    (r.report.started < counterModulus → r.report.completed = 0 → 0 < failures →
      r.report.failed ≤ 3332 * failures ∨ steps ≤ 9999 * failures → report.passed = false) := by
  intro report failures steps
  have whole : report.passed = _ := run.passed_eq made defaults document period
  obtain ⟨rs, recorded⟩ := run.recordings
  obtain ⟨latencies, each⟩ := run.latencies recorded
  have profile : t.profile = p := (ofProfile_eq made).2.1
  refine ⟨?_, ⟨rs, profile ▸ recorded, ?_⟩, ?_⟩
  · intro range
    have often : ¬ (failures = 0 ∨ 10000 * failures < steps) ↔
        0 < failures ∧ steps ≤ 10000 * failures := by omega
    rw [whole, ← often, ← run.below_iff range, Bool.and_eq_false_iff, Bool.not_eq_true,
      judge_latencyLimit latencies]
    rfl
  · intro _ range
    have most : 4 * r.report.started < 2 ^ 48 := by omega
    exact hundred_le_p95_iff latencies
      (Nat.lt_of_le_of_lt (each.trans_le run.steps_le_started) most)
  · intro range noneCompleted someFailed few
    rw [whole, run.steps_not_below range noneCompleted someFailed few, Bool.and_false,
      Bool.and_false]

/-- The one iteration fails its login at once: no latency is long, but the one step failed. -/
theorem verdict_of_defaults_brief :
    let report := (ofDefaults brief).reportOf "" ⟨default, default⟩ failingRun
    (report.passed = false ↔
      (Binary64.ofNat 100).le report.metrics.durations.p95 = true ∨
        0 < 1 ∧ failingRun.crew.world.metrics.series.stepErrors.total ≤ 10000) ∧
      (∃ rs, failingRun.crew.world.metrics =
          (RunMetrics.fresh "scenario_errors").recordAll rs ∧
        let latencies := rs.filterMap Recording.latency?
        ((Binary64.ofNat 100).le report.metrics.durations.p95 = true ↔
          20 * latencies.countP (·.micros < 99968) < 19 * latencies.length)) ∧
      (Binary64.ofNat 100).le report.metrics.durations.p95 = false ∧
      failingRun.report.completed = 0 ∧ report.passed = false := by
  obtain ⟨finished, started, completed, failed, steps⟩ := failingRun_counts
  obtain ⟨h, run⟩ : ∃ h, (ofDefaults brief).RunsTo failing () .never h failingRun :=
    execute_runsTo finished
  have failures : History.endedBy (· = .failed) h = 1 := by
    rw [← run.recorded.hits, steps]
  obtain ⟨exactly, ⟨rs, recorded, long⟩, enough⟩ := verdict_of_defaults brief _ ofProfile_brief rfl
    failing () .never h failingRun run "" ⟨default, default⟩
  rw [failures, failed, started] at enough
  rw [failures, started] at exactly
  rw [started] at long
  refine ⟨exactly (by decide), ⟨rs, recorded, long (by decide)⟩, by decide +kernel, completed, ?_⟩
  exact enough (by decide) completed Nat.one_pos (.inl (by decide))

end LoadTest

/-! ## Nothing is ever answered -/

/-- A target that answers no request. -/
def Target.IsMute (target : Target σ) : Prop :=
  ∀ state request answer delay latency, (target state request).2 ≠ .answer answer delay latency

/-- Nothing was observed of requests and steps. -/
structure Series.Unobserved (s : Series) : Prop where
  durations : s.durations = .empty
  requestFailures : s.requestFailures = .empty
  stepErrors : s.stepErrors = .empty

theorem Series.Unobserved.record {m : RunMetrics} {r : Recording}
    (nothing : m.series.Unobserved) (aside : r.isAside = true) :
    (m.record r).series.Unobserved := by
  obtain ⟨durations, requests, steps⟩ := m.record_aside aside
  exact ⟨durations.trans nothing.durations, requests.trans nothing.requestFailures,
    steps.trans nothing.stepErrors⟩

/-- An iteration waits for something else than an answer that is under way. -/
def Pending.isUnanswered : Pending → Bool
  | .answer .. => false
  | .crash | .silence _ => true

theorem Pending.proceed_mute {target : Target σ} (mute : target.IsMute)
    (settings : ScenarioSettings) (iteration : Nat) {f : RunState σ} (a : Awaiting)
    (nothing : f.metrics.series.Unobserved) :
    (proceed settings target iteration f (.awaiting a)).1.metrics.series.Unobserved ∧
      ∀ s ∈ (proceed settings target iteration f (.awaiting a)).2.state?,
        s.isUnanswered = true := by
  rw [proceed]
  split
  next f' given delay latency sent =>
    exact absurd (congrArg Prod.snd sent) (mute f.target (a.request settings) given delay latency)
  next f' delay sent =>
    rw [← RunState.send_metrics sent] at nothing
    split
    · exact ⟨nothing.record rfl, Next.forall_finish⟩
    · refine ⟨nothing, fun s waits => ?_⟩
      cases waits
      rfl
  next f' sent =>
    rw [← RunState.send_metrics sent] at nothing
    refine ⟨nothing, fun s waits => ?_⟩
    cases waits
    rfl

/-- Against a mute target nothing is ever observed of requests and steps. -/
theorem Workload.ofScenario_mute {target : Target σ} (mute : target.IsMute)
    (settings : ScenarioSettings) (watched : Bool) :
    (Workload.ofScenario settings target watched).Keeps
      (fun f => f.metrics.series.Unobserved) (·.isUnanswered = true) where
  resume now i f state nothing waits := by
    cases state with
    | none => exact Pending.proceed_mute mute settings i .login nothing
    | some pending =>
        cases pending with
        | answer a answer latency => cases waits _ rfl
        | crash => exact ⟨nothing.record rfl, Next.forall_finish⟩
        | silence a =>
            refine ⟨nothing, fun s waits => ?_⟩
            cases waits
            rfl
  abandon now i f state nothing := nothing.record rfl
  notice now f n nothing :=
    RunState.notice_keeps (p := fun m => m.series.Unobserved)
      (fun _ _ aside nothing => nothing.record aside) settings target watched now f n nothing

namespace LoadTest

/-- The percentile of no latencies is zero. -/
theorem judge_nothing {m : RunMetrics} (nothing : m.series.Unobserved) :
    (Threshold.judge m .latencyLimit).passed = true := by
  simp only [Threshold.judge, Threshold.latencyLimit, RunMetrics.observe, nothing.durations]
  decide +kernel

/-- Under the default thresholds every run against a mute target passes, however many
iterations it started: of nothing observed, rates and percentiles are zero. -/
theorem passed_of_mute {p : Profile} {t : LoadTest} (made : ofProfile p = .ok t)
    (defaults : p.thresholds = .defaults p.scenario.errorSeries) {target : Target σ}
    (mute : target.IsMute) {state : σ} {shutdown : Shutdown} {h : History}
    {r : ExecutorRun (RunState σ) Pending} (run : t.RunsTo target state shutdown h r)
    (document : String) (period : Period) :
    (t.reportOf document period r).passed = true := by
  have keeps := Workload.ofScenario_mute mute t.profile.scenario t.watched
  have nothing := (keeps.schedule ⟨rfl, rfl, rfl⟩ run.schedule).world
  have empty : Rate.empty.ratio.lt Threshold.failureBound = true :=
    (Rate.ratio_lt_failureBound_iff (by decide)).mpr (.inl rfl)
  rw [run.passed_eq made defaults, judge_nothing nothing, nothing.requestFailures,
    nothing.stepErrors, empty]
  rfl

/-- A target that never answers. -/
def silent : Target Unit := fun state _ => (state, .silence)

/-- The run in which the one iteration waits for ever. -/
def silentRun : ExecutorRun (RunState Unit) Pending :=
  (ofDefaults brief).execute silent () .never

theorem silentRun_counts :
    silentRun.isFinished = true ∧ 0 < silentRun.report.started ∧
      silentRun.report.completed = 0 := by
  decide +kernel

/-- Nothing completes, and still the default thresholds are not crossed. -/
theorem not_failed_of_none_completed :
    ¬ ∀ (t : LoadTest) (h : History) (r : ExecutorRun (RunState Unit) Pending)
      (document : String) (period : Period), ofProfile brief = .ok t →
      t.RunsTo silent () .never h r → 0 < r.report.started → r.report.completed = 0 →
      (t.reportOf document period r).passed = false := by
  intro fails
  obtain ⟨finished, started, completed⟩ := silentRun_counts
  obtain ⟨h, run⟩ : ∃ h, (ofDefaults brief).RunsTo silent () .never h silentRun :=
    execute_runsTo finished
  have failed := fails _ h _ "" ⟨default, default⟩ ofProfile_brief run started completed
  have passed := passed_of_mute ofProfile_brief rfl nofun run "" ⟨default, default⟩
  rw [passed] at failed
  exact Bool.noConfusion failed

end LoadTest

end LoadHarness
