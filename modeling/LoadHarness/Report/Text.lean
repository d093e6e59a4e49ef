import LoadHarness.Report.Basic

/-!
# The text of a report

The summary that a run prints at its end. Names stand in columns; rates are percentages with
two places.
-/

namespace LoadHarness

namespace RunReport

/-- A text with blanks up to a width. -/
def column (width : Nat) (text : String) : String :=
  text ++ String.ofList (List.replicate (width - text.length) ' ')

def mark (passed : Bool) : String := if passed then "✓" else "✗"

def percent (rate : Binary64) : String := (rate * .ofNat 100).toFixed 2 ++ "%"

def rateLine (name : String) (r : Rate) : String :=
  "  " ++ column 20 name ++ " " ++ percent r.ratio ++ " (" ++ toString r.hits ++ " of "
    ++ toString r.total ++ ")"

def executorLine (e : ExecutorReport) : String :=
  "executor " ++ e.executor ++ ": " ++ toString e.started ++ " started, "
    ++ toString e.completed ++ " completed, " ++ toString e.failed ++ " failed, "
    ++ toString e.dropped ++ " dropped, peak " ++ toString e.peakWorkers ++ " of "
    ++ toString e.allocatedWorkers ++ " workers, " ++ e.elapsed.toSeconds.toFixed 1 ++ "s"

def checkLine (name : String) (r : Rate) : String :=
  "  " ++ mark (r.misses == 0) ++ " " ++ column 34 name ++ " " ++ toString r.hits
    ++ " passed, " ++ toString r.misses ++ " failed"

def millisText (x : Binary64) : String := x.toFixed 2 ++ "ms"

def trendLine (t : Trend.Summary) : String :=
  "  " ++ column 20 "http_req_duration" ++ " avg=" ++ millisText t.average
    ++ " min=" ++ millisText t.minimum ++ " med=" ++ millisText t.median
    ++ " max=" ++ millisText t.maximum ++ " p(90)=" ++ millisText t.p90
    ++ " p(95)=" ++ millisText t.p95

def countLine (name value : String) : String := "  " ++ column 20 name ++ " " ++ value

def verdictLine (v : Verdict) : String :=
  "  " ++ mark v.passed ++ " " ++ v.series ++ " " ++ v.source ++ " (observed "
    ++ v.observed.toFixed 4 ++ ")"

/-- A titled group of lines after an empty line; nothing without lines. -/
def group (title : String) (lines : List String) : List String :=
  if lines.isEmpty then [] else "" :: title :: lines

def lines (r : RunReport) : List String :=
  let m := r.metrics
  [r.version ++ " against " ++ r.target, executorLine r.executor]
    ++ group "checks" (m.checksByName.map fun (name, rate) => checkLine name rate)
    ++ group "metrics"
      [trendLine m.durations,
        rateLine "http_req_failed" m.requestFailures,
        rateLine m.errorSeries m.stepErrors,
        rateLine "checks" m.checks,
        countLine "http_reqs" (toString m.requests),
        countLine "iterations"
          (toString m.completed ++ " completed, " ++ toString m.failed ++ " failed"),
        countLine "dropped_iterations" (toString m.dropped)]
    ++ group "thresholds" (r.verdicts.map verdictLine)
    ++ ["", "result: " ++ (if r.passed then "PASSED" else "THRESHOLDS CROSSED")]

/-- The printed summary. -/
def toText (r : RunReport) : String := String.intercalate "\n" r.lines

end RunReport

end LoadHarness
