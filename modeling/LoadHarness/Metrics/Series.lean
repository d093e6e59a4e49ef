import LoadHarness.Metrics.Rate
import LoadHarness.Metrics.Recording
import LoadHarness.Metrics.Trend
import LoadHarness.Threshold.Aggregation

/-!
# Series of a run

The aggregated series that thresholds and reports read. Six names are built in. The rate of
failed steps has a name of its own choice; a built-in series of that name hides it.
-/

namespace LoadHarness

/-- Rates by name, in the order of first use. -/
abbrev NamedRates := List (String × Rate)

namespace NamedRates

def observe (rates : NamedRates) (name : String) (hit : Bool) : NamedRates :=
  match rates with
  | [] => [(name, Rate.empty.observe hit)]
  | (key, rate) :: rest =>
    if key = name then (key, rate.observe hit) :: rest
    else (key, rate) :: observe rest name hit

end NamedRates

/-- The aggregated series of a run. -/
structure Series where
  durations : Trend
  requestFailures : Rate
  stepErrors : Rate
  checks : Rate
  checksByName : NamedRates
  completed : Nat
  failed : Nat
  dropped : Nat

namespace Series

def empty : Series := ⟨.empty, .empty, .empty, .empty, [], 0, 0, 0⟩

/-- Takes one recording into the series that it concerns. -/
def record (s : Series) : Recording → Series
  | .request _ status expected latency =>
    { s with
      durations := s.durations.record latency
      requestFailures := s.requestFailures.observe (status != expected) }
  | .check name passed =>
    { s with
      checks := s.checks.observe passed
      checksByName := s.checksByName.observe name passed }
  | .step _ failed => { s with stepErrors := s.stepErrors.observe failed }
  | .iteration completed =>
    if completed then { s with completed := s.completed + 1 }
    else { s with failed := s.failed + 1 }
  | .dropped count => { s with dropped := (s.dropped + count) % counterModulus }
  | .active _ => s
  | .allocated _ => s

def ofRecordings (recordings : List Recording) : Series := recordings.foldl record empty

/-- The number of exchanges. -/
def requests (s : Series) : Nat := s.requestFailures.total

/-- The kind of a named series, if the run has it. -/
def kindOf (errorSeries name : String) : Option SeriesKind :=
  if name = "http_req_duration" then some .trend
  else if name = "http_req_failed" ∨ name = "checks" then some .rate
  else if name = "http_reqs" ∨ name = "iterations" ∨ name = "dropped_iterations" then
    some .counter
  else if name = errorSeries then some .rate
  else none

/-- The rate of a name. The name of the error rate reaches it unless a built-in rate has
the same name. -/
def rate? (s : Series) (errorSeries name : String) : Option Rate :=
  if name = "http_req_failed" then some s.requestFailures
  else if name = "checks" then some s.checks
  else if name = errorSeries then some s.stepErrors
  else none

/-- The value of a counter. -/
def count? (s : Series) (name : String) : Option Nat :=
  if name = "http_reqs" then some s.requests
  else if name = "iterations" then some (s.completed + s.failed)
  else if name = "dropped_iterations" then some s.dropped
  else none

end Series

/-- The series of a run as a report shows them. -/
structure Snapshot where
  requests : Nat
  durations : Trend.Summary
  requestFailures : Rate
  errorSeries : String
  stepErrors : Rate
  checks : Rate
  checksByName : NamedRates
  completed : Nat
  failed : Nat
  dropped : Nat

def Series.snapshot (s : Series) (errorSeries : String) : Snapshot :=
  { requests := s.requests
    durations := s.durations.summary
    requestFailures := s.requestFailures
    errorSeries
    stepErrors := s.stepErrors
    checks := s.checks
    checksByName := s.checksByName
    completed := s.completed
    failed := s.failed
    dropped := s.dropped }

end LoadHarness
