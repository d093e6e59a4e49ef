import LoadHarness.Digest
import LoadHarness.Executor.Report
import LoadHarness.Threshold.Verdict
import LoadHarness.Timestamp

/-!
# Run reports

Everything that a finished run leaves: who ran against what and when, what the executor did,
what was measured, and the verdict of every threshold.
-/

namespace LoadHarness

structure RunReport where
  version : String
  configHash : String
  target : String
  startedAt : Timestamp
  finishedAt : Timestamp
  executor : ExecutorReport
  metrics : Snapshot
  verdicts : List Verdict
  passed : Bool

namespace RunReport

/-- The verdicts of thresholds that were crossed. -/
def failedVerdicts (r : RunReport) : List Verdict := r.verdicts.filter fun v => !v.passed

end RunReport

end LoadHarness
