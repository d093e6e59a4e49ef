import LoadHarness.Duration.Text
import LoadHarness.Files.Tree
import LoadHarness.Json.Writer
import LoadHarness.Report.Basic

/-!
# Report documents

The report as a JSON document, and where it is written: missing directories on the way are
created first.
-/

namespace LoadHarness

namespace RunReport

/-- A count as a JSON value. -/
def countValue (n : Nat) : JsonValue := .number (.natural n)

def realValue (x : Binary64) : JsonValue := .number (.real x)

def rateValue (r : Rate) : JsonValue :=
  .object [("hits", countValue r.hits), ("misses", countValue r.misses)]

def trendValue (t : Trend.Summary) : JsonValue :=
  .object [("count", countValue t.count), ("avg_ms", realValue t.average),
    ("min_ms", realValue t.minimum), ("med_ms", realValue t.median),
    ("max_ms", realValue t.maximum), ("p90_ms", realValue t.p90), ("p95_ms", realValue t.p95),
    ("p99_ms", realValue t.p99)]

def executorValue (e : ExecutorReport) : JsonValue :=
  .object [("executor", .string e.executor), ("started", countValue e.started),
    ("completed", countValue e.completed), ("failed", countValue e.failed),
    ("dropped", countValue e.dropped), ("peak_workers", countValue e.peakWorkers),
    ("allocated_workers", countValue e.allocatedWorkers), ("elapsed", .string e.elapsed.toText)]

def checkValue (name : String) (r : Rate) : JsonValue :=
  .object [("name", .string name), ("passes", countValue r.hits), ("fails", countValue r.misses)]

def metricsValue (m : Snapshot) : JsonValue :=
  .object [("http_reqs", countValue m.requests), ("http_req_duration", trendValue m.durations),
    ("http_req_failed", rateValue m.requestFailures), ("error_metric", .string m.errorSeries),
    ("step_errors", rateValue m.stepErrors), ("checks", rateValue m.checks),
    ("checks_by_name", .array (m.checksByName.map fun (name, r) => checkValue name r)),
    ("iterations_completed", countValue m.completed),
    ("iterations_failed", countValue m.failed), ("dropped_iterations", countValue m.dropped)]

def verdictValue (v : Verdict) : JsonValue :=
  .object [("metric", .string v.series), ("expression", .string v.source),
    ("observed", realValue v.observed), ("passed", .bool v.passed)]

/-- The document of a report. -/
def toValue (r : RunReport) : JsonValue :=
  .object [("version", .string r.version), ("config_hash", .string r.configHash),
    ("target", .string r.target), ("started_at", .string r.startedAt.toText),
    ("finished_at", .string r.finishedAt.toText), ("executor", executorValue r.executor),
    ("metrics", metricsValue r.metrics), ("thresholds", .array (r.verdicts.map verdictValue)),
    ("passed", .bool r.passed)]

/-- The text that is written to a file. -/
def document (r : RunReport) : String := r.toValue.indented

/-- Why a report could not be written. -/
inductive WriteError where
  | directory (path : String) (cause : FileError)
  | file (path : String) (cause : FileError)

namespace WriteError

def message : WriteError → String
  | directory path _ => "failed to create report directory " ++ path
  | file path _ => "failed to write run report to " ++ path

def cause : WriteError → FileError
  | directory _ cause => cause
  | file _ cause => cause

end WriteError

/-- Writes the document to a path, creating the directories that lead to it. -/
def write (r : RunReport) (tree : FileTree) (path : String) : Except WriteError FileTree := do
  let parent := FileTree.parentOf path
  let tree ← (tree.createDirectories parent).mapError (.directory parent)
  (tree.write path r.document).mapError (.file path)

end RunReport

end LoadHarness
