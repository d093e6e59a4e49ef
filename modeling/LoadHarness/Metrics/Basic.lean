import LoadHarness.Metrics.Exposition
import LoadHarness.Metrics.Series

/-!
# Run metrics

The metrics of a run: the name of its error series, the aggregated series and the registry.
Every recording goes into both.
-/

namespace LoadHarness

structure RunMetrics where
  errorSeries : String
  series : Series
  registry : Registry

namespace RunMetrics

/-- Metrics before the first recording. -/
def fresh (errorSeries : String) : RunMetrics := ⟨errorSeries, .empty, .empty⟩

def record (m : RunMetrics) (r : Recording) : RunMetrics :=
  { m with series := m.series.record r, registry := m.registry.record r }

def recordAll (m : RunMetrics) (rs : List Recording) : RunMetrics := rs.foldl record m

def kindOf (m : RunMetrics) (name : String) : Option SeriesKind :=
  Series.kindOf m.errorSeries name

def rate? (m : RunMetrics) (name : String) : Option Rate := m.series.rate? m.errorSeries name

def count? (m : RunMetrics) (name : String) : Option Nat := m.series.count? name

def snapshot (m : RunMetrics) : Snapshot := m.series.snapshot m.errorSeries

def exposition (m : RunMetrics) : String := m.registry.exposition m.errorSeries

/-- A one-line description. -/
def describe (m : RunMetrics) : String :=
  "RunMetrics \x7b error_metric: " ++ quoted m.errorSeries ++ ", .. \x7d"

/-- The names of a registry can be taken once only. -/
def takenMessage : String := "Duplicate metrics collector registration attempted"

@[simp] theorem series_recordAll (m : RunMetrics) (rs : List Recording) :
    (m.recordAll rs).series = rs.foldl Series.record m.series := by
  induction rs generalizing m with
  | nil => rfl
  | cons r rest ih => exact ih (m.record r)

@[simp] theorem registry_recordAll (m : RunMetrics) (rs : List Recording) :
    (m.recordAll rs).registry = rs.foldl Registry.record m.registry := by
  induction rs generalizing m with
  | nil => rfl
  | cons r rest ih => exact ih (m.record r)

end RunMetrics

end LoadHarness
