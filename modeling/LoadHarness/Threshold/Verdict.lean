import LoadHarness.Metrics.Basic
import LoadHarness.Threshold.Table

/-!
# Verdicts

The outcome of a threshold at the end of a run: the number its aggregation reads from the
metrics, and whether that number stands in the stated relation to the bound.
-/

namespace LoadHarness

/-- The outcome of one threshold. -/
structure Verdict where
  series : String
  source : String
  observed : Binary64
  passed : Bool

namespace RunMetrics

/-- The count of a series: a counter, else the observations of a rate, else the number of
latencies. -/
def countOf (m : RunMetrics) (series : String) : Nat :=
  match m.count? series with
  | some n => n
  | none =>
    match m.rate? series with
    | some r => r.total
    | none => m.series.durations.count

/-- The number that an aggregation reads from a series. -/
def observe (m : RunMetrics) (series : String) : Aggregation → Binary64
  | .percentile p => m.series.durations.percentile p
  | .average => m.series.durations.summary.average
  | .minimum => m.series.durations.summary.minimum
  | .maximum => m.series.durations.summary.maximum
  | .median => m.series.durations.percentile (.ofNat 50)
  | .rate => ((m.rate? series).map Rate.ratio).getD .zero
  | .count => .ofNat (m.countOf series)

end RunMetrics

namespace Threshold

/-- Judges a threshold by the metrics of a run. -/
def judge (m : RunMetrics) (t : Threshold) : Verdict :=
  let observed := m.observe t.series t.expression.aggregation
  { series := t.series
    source := t.source
    observed
    passed := t.expression.comparison.holds observed t.expression.bound }

/-- The thresholds of a table for the series of a run. -/
def forRun? (m : RunMetrics) (table : ThresholdTable) :
    Except ThresholdError (List Threshold) :=
  ofTable? m.kindOf table

end Threshold

end LoadHarness
