import LoadHarness.Executor.Settings
import LoadHarness.Scenario.Settings
import LoadHarness.Threshold.Table
import LoadHarness.Url.Reader

/-!
# Load profiles

A profile says what a run does: where the service is, what an iteration sends, how iterations
start, which thresholds decide, and where logs, metrics and the report go. Its settings have
defaults, and some combinations of them make no run.
-/

namespace LoadHarness

/-- Where the service is and how long a request may take. -/
structure TargetSettings where
  baseUrl : Url
  requestTimeout : Duration

/-- How log records look on the console. -/
inductive LogFormat where
  | structuredJson
  | pretty
  deriving DecidableEq

namespace LogFormat

def name : LogFormat → String
  | structuredJson => "structured-json"
  | pretty => "pretty"

def all : List LogFormat := [structuredJson, pretty]

end LogFormat

/-- Where log records go; without a directory there is no log file. -/
structure LogSettings where
  directory : Option String
  format : LogFormat
  filePrefix : Option String

/-- Whether metrics can be fetched during a run, and where. -/
structure ExporterSettings where
  enabled : Bool
  listen : SocketAddress

structure Profile where
  target : TargetSettings
  scenario : ScenarioSettings
  executor : ExecutorSettings
  thresholds : ThresholdTable
  logging : LogSettings
  exporter : ExporterSettings
  /-- The file that the report is written to. -/
  summaryPath : Option String

namespace TargetSettings

def defaults : TargetSettings :=
  { baseUrl :=
      { scheme := "http"
        authority := some { user := none, host := .name "localhost", port := some 8080 }
        path := .segments [""]
        query := none
        fragment := none }
    requestTimeout := .ofSeconds 60 }

/-- What makes a target unusable. -/
inductive Fault where
  | opaqueUrl (url : Url)
  | otherScheme (scheme : String)
  | zeroTimeout

def Fault.message : Fault → String
  | opaqueUrl url => "target base_url " ++ url.toText ++ " cannot be used as a base"
  | otherScheme scheme => "target base_url must use http or https, got '" ++ scheme ++ "'"
  | zeroTimeout => "target request_timeout must be greater than zero"

def fault? (t : TargetSettings) : Option Fault :=
  if t.baseUrl.isOpaque then some (.opaqueUrl t.baseUrl)
  else if t.baseUrl.scheme ≠ "http" ∧ t.baseUrl.scheme ≠ "https" then
    some (.otherScheme t.baseUrl.scheme)
  else if t.requestTimeout = .zero then some .zeroTimeout
  else none

end TargetSettings

def LogSettings.defaults : LogSettings :=
  { directory := none, format := .pretty, filePrefix := none }

def ExporterSettings.defaults : ExporterSettings :=
  { enabled := false, listen := .v4 (.ofBytes 127 0 0 1) 9899 }

namespace ThresholdTable

/-- The thresholds of a profile that names none: slow requests, failed requests and failed
steps are bounded. -/
def defaults (errorSeries : String) : ThresholdTable :=
  .ofEntries [("http_req_duration", ["p(95)<100"]), ("http_req_failed", ["rate<0.0001"]),
    (errorSeries, ["rate<0.0001"])]

/-- The rows of a table in the order of their names. -/
def sorted (table : ThresholdTable) : ThresholdTable := table.mergeSort fun a b => a.1 ≤ b.1

/-- What makes a table unusable. -/
inductive Fault where
  | blankSeries
  | blankExpression (series : String)

def Fault.message : Fault → String
  | blankSeries => "threshold metric name cannot be empty"
  | blankExpression series => "threshold for '" ++ series ++ "' contains an empty expression"

def rowFault? (row : String × List String) : Option Fault :=
  if isBlankText row.1 then some .blankSeries
  else if row.2.any isBlankText then some (.blankExpression row.1)
  else none

def fault? (table : ThresholdTable) : Option Fault := table.findSome? rowFault?

end ThresholdTable

namespace Profile

def defaults : Profile :=
  { target := .defaults
    scenario := .defaults
    executor := .defaults
    thresholds := .defaults ScenarioSettings.defaults.errorSeries
    logging := .defaults
    exporter := .defaults
    summaryPath := none }

/-- What makes a profile unusable. -/
inductive Fault where
  | target (fault : TargetSettings.Fault)
  | scenario (fault : ScenarioSettings.Fault)
  | executor (fault : ExecutorSettings.Fault)
  | thresholds (fault : ThresholdTable.Fault)

def Fault.message : Fault → String
  | target fault => fault.message
  | scenario fault => fault.message
  | executor fault => fault.message
  | thresholds fault => fault.message

/-- The first fault of the settings, in the order of the sections. -/
def fault? (p : Profile) : Option Fault :=
  (p.target.fault?.map .target)
    <|> (p.scenario.fault?.map .scenario)
    <|> (p.executor.fault?.map .executor)
    <|> (p.thresholds.fault?.map .thresholds)

/-- The profile with default thresholds if it names none. -/
def withThresholds (p : Profile) : Profile :=
  if p.thresholds.isEmpty then { p with thresholds := .defaults p.scenario.errorSeries } else p

end Profile

end LoadHarness
