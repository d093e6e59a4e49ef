import LoadHarness.Proofs.LoadTest.Readings
import LoadHarness.Proofs.Metrics.Magnitude
import LoadHarness.Proofs.Threshold.Grammar

/-!
# Verdicts of opposite comparisons

What is observed of a run is a finite number that is not negative, whichever aggregation reads it
from whichever series, and the bound of every threshold that is accepted is finite. So the two
numbers compare: of a comparison and its opposite exactly one holds, and of two thresholds that
differ in nothing else exactly one passes.
-/

namespace LoadHarness

open Binary64

/-! ## Opposite comparisons -/

namespace Comparison

/-- The comparison that holds where the other one does not. -/
def opposite : Comparison → Comparison
  | less => atLeast
  | atMost => greater
  | greater => atMost
  | atLeast => less
  | equal => unequal
  | unequal => equal

/-- Finite numbers compare: what does not hold of them is what the opposite says. -/
theorem holds_opposite {x y : Binary64} (finite : x.isFinite = true) (finite' : y.isFinite = true)
    (c : Comparison) : c.opposite.holds x y = !c.holds x y := by
  have placed (z : Binary64) (finite : z.isFinite = true) : ∃ a, z.position = some a := by
    cases z with
    | finite negative steps grid => exact ⟨_, rfl⟩
    | infinite | nan => cases finite
  obtain ⟨a, left⟩ := placed x finite
  obtain ⟨b, right⟩ := placed y finite'
  cases c with
  | less | atMost | greater | atLeast =>
      simp only [opposite, holds, lt, le, left, right, ← decide_not, Int.not_lt, Int.not_le]
  | equal => rfl
  | unequal => rw [opposite, holds, holds, Bool.not_not]

end Comparison

/-! ## Observed numbers -/

namespace RunMetrics

variable {m : RunMetrics} {series : String}

/-- The totals of a snapshot are those of the series it was taken of. -/
theorem totals_snapshot (m : RunMetrics) :
    m.snapshot.totals =
      [("http_req_duration", m.series.durations.count),
        ("http_req_failed", m.series.requestFailures.total), ("http_reqs", m.series.requests),
        ("checks", m.series.checks.total), ("iterations", m.series.completed + m.series.failed),
        ("dropped_iterations", m.series.dropped), (m.errorSeries, m.series.stepErrors.total)] := by
  simp only [Snapshot.totals, snapshot, Series.snapshot, Trend.count_summary]

/-- Every rate has its total among those of the snapshot. -/
theorem total_mem {r : Rate} (named : m.rate? series = some r) :
    ∃ name, (name, r.total) ∈ m.snapshot.totals := by
  rw [rate?, Series.rate?] at named
  split at named
  · cases named
    exact ⟨"http_req_failed", by simp [totals_snapshot]⟩
  split at named
  · cases named
    exact ⟨"checks", by simp [totals_snapshot]⟩
  split at named
  · cases named
    exact ⟨m.errorSeries, by simp [totals_snapshot]⟩
  · cases named

/-- So has every series, whatever it counts. -/
theorem countOf_mem (m : RunMetrics) (series : String) :
    ∃ name, (name, m.countOf series) ∈ m.snapshot.totals := by
  rw [countOf]
  split
  · next n counter =>
    rw [count?, Series.count?] at counter
    split at counter
    · cases counter
      exact ⟨"http_reqs", by simp [totals_snapshot]⟩
    split at counter
    · cases counter
      exact ⟨"iterations", by simp [totals_snapshot]⟩
    split at counter
    · cases counter
      exact ⟨"dropped_iterations", by simp [totals_snapshot]⟩
    · cases counter
  · split
    · next r named => exact total_mem named
    · exact ⟨"http_req_duration", by simp [totals_snapshot]⟩

/-- All totals of the snapshot can be counted in 64 binary digits. -/
def IsCounted (m : RunMetrics) : Prop := ∀ total ∈ m.snapshot.totals, total.2 < Word.bound64

/-- A rate that a run has is at most one, and one that it does not have is zero. -/
theorem IsCounted.rate_atMost (counted : m.IsCounted) (series : String) :
    AtMost (m.observe series .rate) Binary64.unit := by
  rw [observe]
  cases named : m.rate? series with
  | none => exact AtMost.zero _
  | some r =>
      obtain ⟨name, mem⟩ := total_mem named
      exact Rate.ratio_atMost (counted _ mem)

/-- The latencies that recordings leave in a run. -/
theorem exists_latencies (errorSeries : String) (rs : List Recording) :
    ∃ ls, ((fresh errorSeries).recordAll rs).series.durations = Trend.ofLatencies ls := by
  refine ⟨rs.filterMap Recording.latency?, ?_⟩
  rw [series_recordAll]
  exact Series.Takes.durations.ofRecordings rs

/-- Every aggregation that can be written observes a finite number that is not negative. -/
theorem IsCounted.observe_hasSteps {errorSeries : String} {rs : List Recording}
    (reached : m = (fresh errorSeries).recordAll rs) (counted : m.IsCounted) (series : String)
    {left : List Char} {a : Aggregation} (written : Aggregation.Written left a) :
    ∃ n, HasSteps (m.observe series a) n := by
  obtain ⟨ls, latencies⟩ := exists_latencies errorSeries rs
  rw [← reached] at latencies
  obtain ⟨least, greatest⟩ := Trend.extremes_hasSteps ls
  cases written with
  | average =>
      have few : ls.length < Word.bound64 := by
        have total := counted ("http_req_duration", m.series.durations.count) (by
          simp [totals_snapshot])
        rwa [latencies, Trend.count_ofLatencies] at total
      rw [observe, latencies]
      exact Trend.average_hasSteps few
  | minimum =>
      rw [observe, latencies]
      exact least
  | maximum =>
      rw [observe, latencies]
      exact greatest
  | median =>
      rw [observe, latencies]
      exact Trend.percentile_hasSteps ls (by decide +kernel) (by decide +kernel)
  | percentile read low high =>
      rw [observe, latencies]
      exact Trend.percentile_hasSteps ls low high
  | rate => exact (counted.rate_atMost series).hasSteps
  | count =>
      obtain ⟨name, mem⟩ := m.countOf_mem series
      exact ⟨_, hasSteps_count (counted _ mem)⟩

end RunMetrics

/-! ## Verdicts -/

namespace Threshold

/-- Two thresholds compare the same observed number with the same bound. -/
structure Alike (t u : Threshold) : Prop where
  series : u.series = t.series
  aggregation : u.expression.aggregation = t.expression.aggregation
  bound : u.expression.bound = t.expression.bound

theorem Alike.passed {m : RunMetrics} {t u : Threshold} (alike : t.Alike u) :
    (u.judge m).passed =
      u.expression.comparison.holds (t.judge m).observed t.expression.bound := by
  simp only [judge, alike.series, alike.aggregation, alike.bound]

/-- Whatever a run has recorded, as long as its totals can be counted in 64 binary digits: a
threshold that was accepted observes a finite number that is not negative, and a rate between zero
and one. So of two thresholds with opposite comparisons, alike otherwise, exactly one passes. -/
theorem judge_opposite {errorSeries : String} {earlier rs : List Recording}
    {table : ThresholdTable} {ts : List Threshold} {m : RunMetrics}
    (read : forRun? ((RunMetrics.fresh errorSeries).recordAll earlier) table = .ok ts)
    (reached : m = (RunMetrics.fresh errorSeries).recordAll rs) (counted : m.IsCounted)
    {t : Threshold} (mem : t ∈ ts) :
    ((t.judge m).observed.isFinite = true ∧ Binary64.zero.le (t.judge m).observed = true) ∧
      (t.expression.aggregation = .rate → (t.judge m).observed.le (.ofNat 1) = true) ∧
      ∀ u v, t.Alike u → t.Alike v →
        v.expression.comparison = u.expression.comparison.opposite →
          (v.judge m).passed = !(u.judge m).passed := by
  obtain ⟨entry, -, reads⟩ := exists_of_forall₂ (reads_ofTable read).flip mem
  obtain ⟨left, right, parts⟩ :=
    Expression.Parts.of_ofCompact? Expression.compact_blankless reads.expression
  obtain ⟨n, has⟩ := counted.observe_hasSteps reached t.series parts.aggregation
  refine ⟨⟨has.isFinite, has.zero_le⟩, ?_, ?_⟩
  · intro rate
    have one : HasSteps (.ofNat 1) (1 * Binary64.unit) := HasSteps.ofNat (by decide)
    rw [Nat.one_mul] at one
    rw [judge, rate]
    exact (counted.rate_atMost t.series).le one
  · intro u v alike alike' opposite
    rw [alike.passed, alike'.passed, opposite]
    exact Comparison.holds_opposite has.isFinite parts.finite _

/-- One of two exchanges failed: the default bound on failures is broken, and its opposite holds. -/
theorem judge_opposite_oneFailed :
    let m := (RunMetrics.fresh "scenario_errors").recordAll
      [.request "login" 200 200 ⟨5000000⟩, .request "login" 500 200 ⟨7000000⟩]
    let t := failureLimit "http_req_failed"
    let u : Threshold := ⟨"http_req_failed", "rate>=0.0001", ⟨.rate, .atLeast, failureBound⟩⟩
    ((t.judge m).observed.isFinite = true ∧ Binary64.zero.le (t.judge m).observed = true) ∧
      (t.judge m).observed.le (.ofNat 1) = true ∧
      (t.judge m).passed = false ∧ (u.judge m).passed = true := by
  intro m t u
  have fine : Profile.defaults.scenario.fault? = none := rfl
  have named : Profile.defaults.scenario.errorSeries = "scenario_errors" := rfl
  have read := forRun_defaults fine
  rw [named] at read
  have accepted : forRun? ((RunMetrics.fresh "scenario_errors").recordAll [])
      (.defaults "scenario_errors") = .ok (defaults "scenario_errors") := read
  have counted : m.IsCounted := by
    have each : ∀ total ∈ m.snapshot.totals, total.2 < Word.bound64 := by decide +kernel
    exact each
  have mem : t ∈ defaults "scenario_errors" := .tail _ (.head _)
  obtain ⟨range, rate, opposite⟩ := judge_opposite accepted rfl counted mem
  have broken : (t.judge m).passed = false := by decide +kernel
  have holds : (u.judge m).passed = !(t.judge m).passed :=
    opposite t u ⟨rfl, rfl, rfl⟩ ⟨rfl, rfl, rfl⟩ rfl
  rw [broken] at holds
  exact ⟨range, rate rfl, broken, holds⟩

end Threshold

end LoadHarness
