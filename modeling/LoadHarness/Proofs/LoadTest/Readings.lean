import LoadHarness.Proofs.LoadTest.Verdict
import LoadHarness.Proofs.Threshold.Comparison
import LoadHarness.Proofs.Threshold.Table

/-!
# What verdicts read

The metrics of a run are read twice: for the snapshot of the report and for its verdicts. The
two readings take different ways, a percentile through a quantile of two decimal places and
through a percentage, a name through the fields of the snapshot and through one choice after
the other. They come to the same numbers.
-/

namespace LoadHarness

/-! ## Reading a snapshot -/

/-- The aggregations of which a snapshot tells. -/
def Aggregation.IsReported : Aggregation → Prop
  | .percentile p => p = .ofNat 90 ∨ p = .ofNat 95 ∨ p = .ofNat 99
  | .average | .minimum | .maximum | .median | .rate | .count => True

namespace Snapshot

/-- The rates of a snapshot and their names. -/
def rates (s : Snapshot) : List (String × Rate) :=
  [("http_req_failed", s.requestFailures), ("checks", s.checks), (s.errorSeries, s.stepErrors)]

/-- The counts of a snapshot and their names. -/
def totals (s : Snapshot) : List (String × Nat) :=
  [("http_req_duration", s.durations.count), ("http_req_failed", s.requestFailures.total),
    ("http_reqs", s.requests), ("checks", s.checks.total),
    ("iterations", s.completed + s.failed), ("dropped_iterations", s.dropped),
    (s.errorSeries, s.stepErrors.total)]

/-- A latency, if latencies are meant. -/
def latency? (series : String) (value : Binary64) : Option Binary64 :=
  if series = "http_req_duration" then some value else none

/-- What a snapshot tells of an aggregation of a series. -/
def value? (s : Snapshot) (series : String) : Aggregation → Option Binary64
  | .average => latency? series s.durations.average
  | .minimum => latency? series s.durations.minimum
  | .maximum => latency? series s.durations.maximum
  | .median => latency? series s.durations.median
  | .percentile p =>
    if p = .ofNat 90 then latency? series s.durations.p90
    else if p = .ofNat 95 then latency? series s.durations.p95
    else if p = .ofNat 99 then latency? series s.durations.p99
    else none
  | .rate => (s.rates.lookup series).map fun r =>
    if r.hits + r.misses = 0 then .zero else .ofNat r.hits / .ofNat (r.hits + r.misses)
  | .count => (s.totals.lookup series).map .ofNat

end Snapshot

/-! ## Recorded latencies -/

namespace Trend

theorem isFilled_ofRecordings (rs : List Recording) :
    (Series.ofRecordings rs).durations.IsFilled := by
  rw [Series.Takes.durations.ofRecordings rs]
  exact isFilled_ofLatencies _

end Trend

/-! ## Two ways to a series -/

namespace Series

variable {errorSeries name : String}

/-- Only latencies are a trend. -/
theorem eq_of_kindOf_trend (kind : kindOf errorSeries name = some .trend) :
    name = "http_req_duration" := by
  simp only [kindOf] at kind
  split at kind
  · assumption
  · split at kind
    · cases kind
    · split at kind
      · cases kind
      · split at kind <;> cases kind

/-- There are three rates. -/
theorem eq_of_kindOf_rate (kind : kindOf errorSeries name = some .rate) :
    name = "http_req_failed" ∨ name = "checks" ∨ name = errorSeries := by
  simp only [kindOf] at kind
  split at kind
  · cases kind
  · split at kind
    · next builtin => exact builtin.elim .inl (.inr ∘ .inl)
    · split at kind
      · cases kind
      · split at kind
        · next own => exact .inr (.inr own)
        · cases kind

/-- Every series that a run has is built in or the error series. -/
theorem mem_of_kindOf {kind : SeriesKind} (known : kindOf errorSeries name = some kind) :
    name ∈ ScenarioSettings.builtinSeries ∨ name = errorSeries := by
  simp only [kindOf] at known
  simp only [ScenarioSettings.builtinSeries, List.mem_cons, List.not_mem_nil]
  split at known
  · next builtin => exact .inl (.inl builtin)
  · split at known
    · next builtin => tauto
    · split at known
      · next builtin => tauto
      · split at known
        · next own => exact .inr own
        · cases known

end Series

namespace RunMetrics

variable {m : RunMetrics} {series : String}

/-- The error series is not hidden by a series of the same name. -/
def IsDistinct (m : RunMetrics) : Prop := m.errorSeries ∉ ScenarioSettings.builtinSeries

/-- The first entry of a name is the one that is found. -/
theorem lookup_cons {α : Type} (name key : String) (value : α) (rest : List (String × α)) :
    List.lookup name ((key, value) :: rest) =
      if name = key then some value else rest.lookup name := by
  by_cases here : name = key
  · simp [here]
  · have other : (name == key) = false := beq_eq_false_iff_ne.mpr here
    rw [List.lookup_cons, other, if_neg here]

theorem rate_snapshot (m : RunMetrics) (series : String) :
    m.snapshot.rates.lookup series = m.rate? series := by
  simp only [Snapshot.rates, lookup_cons, rate?, Series.rate?, List.lookup_nil]
  rfl

/-- Every series of a run has its total in the snapshot. -/
theorem total_snapshot (distinct : m.IsDistinct) {kind : SeriesKind}
    (known : m.kindOf series = some kind) :
    m.snapshot.totals.lookup series = some (m.countOf series) := by
  simp only [IsDistinct, ScenarioSettings.builtinSeries, List.mem_cons, List.not_mem_nil,
    not_or] at distinct
  simp only [Snapshot.totals, lookup_cons, countOf, count?, Series.count?, rate?, Series.rate?]
  rcases Series.mem_of_kindOf known with builtin | rfl
  · simp only [ScenarioSettings.builtinSeries, List.mem_cons, List.not_mem_nil, or_false] at builtin
    rcases builtin with rfl | rfl | rfl | rfl | rfl | rfl
    · simp [Ne.symm distinct.1, snapshot, Series.snapshot]
    · simp [snapshot, Series.snapshot]
    · simp [snapshot, Series.snapshot]
    · simp [snapshot, Series.snapshot]
    · simp [snapshot, Series.snapshot]
    · simp [snapshot, Series.snapshot]
  · simp [distinct, snapshot, Series.snapshot]

/-- What an aggregation reads from a series that has it, it reads from the snapshot. -/
theorem value_snapshot (distinct : m.IsDistinct) (filled : m.series.durations.IsFilled)
    {aggregation : Aggregation} {kind : SeriesKind} (known : m.kindOf series = some kind)
    (supported : aggregation.supports kind = true) (reported : aggregation.IsReported) :
    m.snapshot.value? series aggregation = some (m.observe series aggregation) := by
  obtain ⟨median, p90, p95, p99⟩ := Trend.summary_eq filled
  have latencies (trend : kind = .trend) (value : Binary64) :
      Snapshot.latency? series value = some value := by
    subst trend
    rw [Snapshot.latency?, if_pos (Series.eq_of_kindOf_trend known)]
  cases aggregation with
  | average | minimum | maximum => exact latencies (beq_iff_eq.mp supported) _
  | median => exact (latencies (beq_iff_eq.mp supported) _).trans (congrArg some median.symm)
  | percentile p =>
      have different : Binary64.ofNat 95 ≠ .ofNat 90 ∧ Binary64.ofNat 99 ≠ .ofNat 90 ∧
          Binary64.ofNat 99 ≠ .ofNat 95 := by
        decide +kernel
      obtain ⟨first, second, third⟩ := different
      have latency := latencies (beq_iff_eq.mp supported)
      have reported : p = .ofNat 90 ∨ p = .ofNat 95 ∨ p = .ofNat 99 := reported
      rcases reported with same | same | same
      · rw [Snapshot.value?, if_pos same, latency, observe, same, p90]
        rfl
      · have skipped : p ≠ .ofNat 90 := fun other => first (same.symm.trans other)
        rw [Snapshot.value?, if_neg skipped, if_pos same, latency, observe, same, p95]
        rfl
      · have skipped : p ≠ .ofNat 90 := fun other => second (same.symm.trans other)
        have skipped' : p ≠ .ofNat 95 := fun other => third (same.symm.trans other)
        rw [Snapshot.value?, if_neg skipped, if_neg skipped', if_pos same, latency, observe, same,
          p99]
        rfl
  | rate =>
      have named : ∃ r, m.rate? series = some r := by
        obtain rfl : kind = .rate := beq_iff_eq.mp supported
        rcases Series.eq_of_kindOf_rate known with rfl | rfl | rfl
        · exact ⟨_, rfl⟩
        · exact ⟨_, rfl⟩
        · simp only [rate?, Series.rate?, if_true]
          split_ifs <;> exact ⟨_, rfl⟩
      obtain ⟨r, named⟩ := named
      rw [Snapshot.value?, rate_snapshot, observe, named]
      rfl
  | count => rw [Snapshot.value?, total_snapshot distinct known, Option.map_some, observe]

end RunMetrics

namespace LoadTest

variable {σ : Type} {t : LoadTest} {target : Target σ} {state : σ} {shutdown : Shutdown}
  {h : History} {r : ExecutorRun (RunState σ) Pending}

theorem RunsTo.isFilled (run : t.RunsTo target state shutdown h r) :
    r.crew.world.metrics.series.durations.IsFilled := by
  obtain ⟨rs, recorded⟩ := run.recordings
  rw [recorded, RunMetrics.series_recordAll]
  exact Trend.isFilled_ofRecordings rs

theorem RunsTo.isDistinct (run : t.RunsTo target state shutdown h r)
    (fine : t.profile.scenario.fault? = none) : r.crew.world.metrics.IsDistinct := by
  rw [RunMetrics.IsDistinct, run.errorSeries]
  exact ScenarioSettings.errorSeries_not_builtin fine

/-- What a report says of an expression: its series and its text, what was observed, which the
snapshot tells as well, and whether that holds. It holds exactly if the value that was observed is
in the relation of the comparison to the value of the bound. -/
structure Judged (s : Snapshot) (entry : String × String) (v : Verdict) : Prop where
  series : v.series = entry.1
  source : v.source = trimBlank entry.2
  observed : ∃ e, Expression.ofText? entry.2 = .ok e ∧
    (e.aggregation.IsReported → s.value? entry.1 e.aggregation = some v.observed) ∧
    v.passed = e.comparison.holds v.observed e.bound ∧
    (v.passed = true ↔ e.comparison.Says v.observed.value? e.bound.value?)

/-- The verdicts of a report are about the configured expressions, one for each and in their
order, and say what the snapshot of the same report says; the run passes exactly if all of them
do. -/
theorem verdicts_judged (t : LoadTest) (table : ThresholdTable)
    (fine : t.profile.scenario.fault? = none)
    (read : Threshold.forRun? (.fresh t.profile.scenario.errorSeries) table = .ok t.thresholds)
    (target : Target σ) (state : σ) (shutdown : Shutdown) (h : History)
    (r : ExecutorRun (RunState σ) Pending) (run : t.RunsTo target state shutdown h r)
    (document : String) (period : Period) :
    let report := t.reportOf document period r
    List.Forall₂ (Judged report.metrics) table.expressions report.verdicts ∧
      (report.passed = true ↔ ∀ v ∈ report.verdicts, v.passed = true) := by
  refine ⟨?_, List.all_eq_true⟩
  have one (entry : String × String) (threshold : Threshold)
      (reads : threshold.Reads (Series.kindOf t.profile.scenario.errorSeries) entry) :
      Judged r.crew.world.metrics.snapshot entry
        (threshold.judge r.crew.world.metrics) := by
    obtain ⟨series, source, expression, kind, known, supported⟩ := reads
    refine ⟨series, source, threshold.expression, expression, fun reported => ?_, rfl,
      threshold.expression.comparison.holds_iff _ _⟩
    rw [← run.errorSeries] at known
    have value := RunMetrics.value_snapshot (run.isDistinct fine) run.isFilled known supported
      reported
    rw [value, Threshold.judge, series]
  have reads := Threshold.reads_ofTable read
  exact List.forall₂_map_right_iff.mpr (reads.imp one)

/-- The report on the run in which one iteration fails its login judges the default expressions:
latencies are short enough, but both rates of failures are not. -/
theorem verdicts_judged_failingRun :
    let report := (ofDefaults brief).reportOf "" ⟨default, default⟩ failingRun
    List.Forall₂ (Judged report.metrics)
        [("http_req_duration", "p(95)<100"), ("http_req_failed", "rate<0.0001"),
          ("scenario_errors", "rate<0.0001")] report.verdicts ∧
      report.verdicts.map (·.passed) = [true, false, false] ∧ report.passed = false := by
  obtain ⟨h, run⟩ : ∃ h, (ofDefaults brief).RunsTo failing () .never h failingRun :=
    execute_runsTo failingRun_counts.1
  have fine : brief.scenario.fault? = none := rfl
  obtain ⟨judged, all⟩ := verdicts_judged (ofDefaults brief)
    (.defaults brief.scenario.errorSeries) fine (Threshold.forRun_defaults fine) failing () .never h
    failingRun run "" ⟨default, default⟩
  have outcomes : ((ofDefaults brief).reportOf "" ⟨default, default⟩ failingRun).verdicts.map
      (·.passed) = [true, false, false] := by
    decide +kernel
  refine ⟨judged, outcomes, Bool.eq_false_iff.mpr fun passed => ?_⟩
  have failed : false ∈ [true, false, false] := by decide
  rw [← outcomes] at failed
  obtain ⟨v, mem, failed⟩ := List.mem_map.mp failed
  exact Bool.noConfusion (failed.symm.trans (all.mp passed v mem))

end LoadTest

end LoadHarness
