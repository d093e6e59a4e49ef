import LoadHarness.Executor.Run
import LoadHarness.LoadTest.Target
import LoadHarness.Net.Listener
import LoadHarness.Profile.Document
import LoadHarness.Report.Document
import LoadHarness.Version

/-!
# Load tests

A load test is a profile that has passed all checks, with its thresholds. Running it against a
target gives a report: what the executor did, what was measured, and whether every threshold
holds. The report is also written to a file if the profile asks for it.
-/

namespace LoadHarness

structure LoadTest where
  profile : Profile
  executor : ExecutorSettings
  /-- Whether the metrics learn of workers and dropped starts. -/
  watched : Bool
  thresholds : List Threshold

namespace LoadTest

/-- Why a profile makes no load test. -/
inductive SetupError where
  | invalid (fault : Profile.Fault)
  | thresholds (error : ThresholdError)

def SetupError.message : SetupError → String
  | invalid fault => fault.message
  | thresholds error => "invalid threshold configuration: " ++ error.message

def ofProfile (p : Profile) : Except SetupError LoadTest :=
  match p.fault? with
  | some fault => .error (.invalid fault)
  | none =>
    match Threshold.forRun? (.fresh p.scenario.errorSeries) p.thresholds with
    | .error error => .error (.thresholds error)
    | .ok thresholds =>
      .ok { profile := p, executor := p.executor, watched := true, thresholds }

/-- The test with another executor: a fixed number of iterations, which nobody watches. -/
def withFixedIterations (t : LoadTest) (iterations workers : Nat) : LoadTest :=
  { t with
    executor := { ExecutorSettings.defaults with kind := .fixedIterations, iterations, workers }
    watched := false }

/-- Why a run came to no report. -/
inductive RunError (σ : Type) where
  | document (error : Profile.DocumentError)
  | exporter (address : SocketAddress) (refusal : SocketAddress.Refusal)
  | executor (breakdown : ExecutorSettings.Breakdown)
  /-- The run is over, but its report could not be written. -/
  | report (state : RunState σ) (error : RunReport.WriteError)

namespace RunError

variable {σ : Type}

def message : RunError σ → String
  | document error => error.message ++ ": " ++ error.cause
  | exporter address refusal =>
    "failed to start metrics exporter: " ++ address.bindMessage ++ ": " ++ refusal.message
  | executor breakdown => breakdown.message
  | report _ error => error.message ++ ": " ++ error.cause.message

/-- What the run left, if the executor was started. -/
def state? : RunError σ → Option (RunState σ)
  | document _ | exporter .. | executor _ => none
  | report state _ => some state

end RunError

/-- The period of a run by the calendar. -/
structure Period where
  start : Timestamp
  finish : Timestamp

/-- What a run leaves. -/
structure Outcome (σ : Type) where
  report : RunReport
  state : RunState σ
  files : FileTree

variable {σ : Type}

/-- The run of the executor. -/
def execute (t : LoadTest) (target : Target σ) (state : σ) (shutdown : Shutdown) :
    ExecutorRun (RunState σ) Pending :=
  ExecutorRun.execute (.ofScenario t.profile.scenario target t.watched) t.executor shutdown
    { target := state, metrics := .fresh t.profile.scenario.errorSeries, sent := [] }

/-- The report on a run of the executor. -/
def reportOf (t : LoadTest) (document : String) (period : Period)
    (run : ExecutorRun (RunState σ) Pending) : RunReport :=
  let metrics := run.crew.world.metrics
  let verdicts := t.thresholds.map (Threshold.judge metrics)
  { version := VersionInfo.current.banner
    configHash := Digest.ofText document
    target := t.profile.target.baseUrl.toText
    startedAt := period.start
    finishedAt := period.finish
    executor := run.report
    metrics := metrics.snapshot
    verdicts
    passed := verdicts.all (·.passed) }

/-- Why the place for metrics cannot be taken, if they are wanted. -/
def refusal? (t : LoadTest) : Option SocketAddress.Refusal :=
  if t.profile.exporter.enabled then t.profile.exporter.listen.refusal? else none

/-- The text of the settings, which must be writable. Before anything is sent, the place for
metrics must moreover be free and the executor able to start. -/
def prepare (t : LoadTest) : Except (RunError σ) String := do
  let document ← t.profile.toDocument.mapError .document
  match t.refusal?, t.executor.breakdown? with
  | some refusal, _ => .error (.exporter t.profile.exporter.listen refusal)
  | none, some breakdown => .error (.executor breakdown)
  | none, none => .ok document

/-- Writes a report to its file, if the profile asks for it. -/
def writeReport (t : LoadTest) (files : FileTree) (report : RunReport) :
    Except RunReport.WriteError FileTree :=
  match t.profile.summaryPath with
  | some path => report.write files path
  | none => .ok files

/-- What is left when the run of the executor is over. -/
def conclude (t : LoadTest) (document : String) (period : Period) (files : FileTree)
    (executed : ExecutorRun (RunState σ) Pending) : Except (RunError σ) (Outcome σ) := do
  let report := t.reportOf document period executed
  let files ← (t.writeReport files report).mapError (.report executed.crew.world)
  return { report, state := executed.crew.world, files }

/-- Runs a load test. -/
def run (t : LoadTest) (target : Target σ) (state : σ) (shutdown : Shutdown) (period : Period)
    (files : FileTree) : Except (RunError σ) (Outcome σ) := do
  let document ← t.prepare
  t.conclude document period files (t.execute target state shutdown)

end LoadTest

end LoadHarness
