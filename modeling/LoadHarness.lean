import LoadHarness.CommandLine.Session
import LoadHarness.Executor.Run
import LoadHarness.Http.Wire
import LoadHarness.LoadTest.Live
import LoadHarness.Main
import LoadHarness.Profile.Reader
import LoadHarness.Report.Document
import LoadHarness.Scenario.Iteration
import LoadHarness.Threshold.Verdict
import LoadHarness.Proofs.Executor.Move
import LoadHarness.Proofs.Executor.Schedule
import LoadHarness.Proofs.Executor.Account
import LoadHarness.Proofs.Scenario.Acceptance
import LoadHarness.Proofs.LoadTest.Ledger
import LoadHarness.Proofs.LoadTest.Counts
import LoadHarness.Proofs.Binary64.Rounding
import LoadHarness.Proofs.Metrics.FailureRate
import LoadHarness.Proofs.Metrics.LatencyLimit
import LoadHarness.Proofs.Executor.Invariant
import LoadHarness.Proofs.LoadTest.Recordings
import LoadHarness.Proofs.LoadTest.Verdict
import LoadHarness.Proofs.Scenario.Course
import LoadHarness.Proofs.LoadTest.Traffic
import LoadHarness.Proofs.Scenario.Ensemble
import LoadHarness.Proofs.Metrics.Accumulation
import LoadHarness.Proofs.Metrics.Interleaving
import LoadHarness.Proofs.Executor.Coverage
import LoadHarness.Proofs.Executor.Staffing
import LoadHarness.Proofs.Executor.Opening
import LoadHarness.Proofs.LoadTest.Balance
import LoadHarness.Proofs.Metrics.DoubleEntry
import LoadHarness.Proofs.Threshold.Comparison
import LoadHarness.Proofs.Threshold.Table
import LoadHarness.Proofs.LoadTest.Readings
import LoadHarness.Proofs.Text.Lowercase
import LoadHarness.Proofs.Text.Digits
import LoadHarness.Proofs.Toml.Text
import LoadHarness.Proofs.Toml.Value
import LoadHarness.Proofs.Toml.Document
import LoadHarness.Proofs.Duration.Text
import LoadHarness.Proofs.Net.Address
import LoadHarness.Proofs.Profile.Layer
import LoadHarness.Proofs.Profile.Section
import LoadHarness.Proofs.Profile.Read
import LoadHarness.Proofs.Profile.Document
import LoadHarness.Proofs.Profile.Reading
import LoadHarness.Proofs.Profile.RoundTrip
import LoadHarness.Proofs.LoadTest.Phases
import LoadHarness.Proofs.Profile.Order
import LoadHarness.Proofs.CommandLine.Exit
import LoadHarness.Proofs.Executor.Arrivals
import LoadHarness.Proofs.Executor.Punctual
import LoadHarness.Proofs.Profile.Lookup
import LoadHarness.Proofs.Profile.Variable
import LoadHarness.Proofs.Profile.Slot
import LoadHarness.Proofs.Profile.Precedence
import LoadHarness.Proofs.Profile.Spelling
import LoadHarness.Proofs.LoadTest.ErrorSeries
import LoadHarness.Proofs.Scenario.Observations
import LoadHarness.Proofs.Executor.Completion
import LoadHarness.Proofs.Executor.Pacing
import LoadHarness.Proofs.Binary64.Literal
import LoadHarness.Proofs.Binary64.Shortest
import LoadHarness.Proofs.Binary64.RoundTrip
import LoadHarness.Proofs.Threshold.Grammar
import LoadHarness.Proofs.Threshold.RoundTrip
import LoadHarness.Proofs.Binary64.Order
import LoadHarness.Proofs.Binary64.Error
import LoadHarness.Proofs.Metrics.Aggregates
import LoadHarness.Proofs.Executor.GracefulStop
import LoadHarness.Proofs.LoadTest.Unjudged
import LoadHarness.Proofs.Executor.Leases
import LoadHarness.Proofs.Executor.FixedNumber
import LoadHarness.Proofs.Executor.Attended
import LoadHarness.Proofs.Metrics.Magnitude
import LoadHarness.Proofs.LoadTest.Comparisons
import LoadHarness.Proofs.LoadTest.Arrangement
import LoadHarness.Proofs.Executor.LeaseOrder
import LoadHarness.Proofs.Executor.Gauge
import LoadHarness.Proofs.LoadTest.Gauges
import LoadHarness.Proofs.Executor.Ticks
import LoadHarness.Proofs.Http.Address
