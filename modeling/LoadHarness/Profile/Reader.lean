import LoadHarness.Duration.Text
import LoadHarness.Files.Tree
import LoadHarness.Profile.Basic
import LoadHarness.Profile.Fault

/-!
# Reading profiles

A profile comes from a document, from the environment or from both, where the environment wins.
Settings that are not given have defaults, and unknown ones do not count. A profile that names
no thresholds has the default ones. What cannot be a run is refused.
-/

namespace LoadHarness

namespace Profile

open Setting (readText readBool readNatural readShortNatural readVariant readOptional readList
  readTable readSection)

def readDuration (s : Setting) : Except Setting.Fault Duration := do
  let text ← readText s
  match Duration.ofText? text with
  | some d => .ok d
  | none => .error (.badDuration text)

def readUrl (s : Setting) : Except Setting.Fault Url := do
  let text ← readText s
  (Url.ofText? text).mapError fun fault => .badUrl fault text

def readAddress (s : Setting) : Except Setting.Fault SocketAddress := do
  let text ← readText s
  match SocketAddress.ofText? text with
  | some address => .ok address
  | none => .error .badAddress

def readTarget (s : Setting) : Except Setting.Fault TargetSettings := do
  let d := TargetSettings.defaults
  let settings ← readSection "TargetConfig" ["base_url", "request_timeout"] s
  let baseUrl ← settings.read "base_url" readUrl d.baseUrl
  let requestTimeout ← settings.read "request_timeout" readDuration d.requestTimeout
  return { baseUrl, requestTimeout }

def readScenario (s : Setting) : Except Setting.Fault ScenarioSettings := do
  let d := ScenarioSettings.defaults
  let settings ← readSection "ScenarioConfig"
    ["role", "city", "page", "limit", "optimized_listing", "error_metric"] s
  let role ← settings.read "role" (readVariant "Role" Role.name Role.all) d.role
  let city ← settings.read "city" readText d.city
  let page ← settings.read "page" readShortNatural d.page
  let limit ← settings.read "limit" readShortNatural d.limit
  let optimizedListing ← settings.read "optimized_listing" readBool d.optimizedListing
  let errorSeries ← settings.read "error_metric" readText d.errorSeries
  return { role, city, page, limit, optimizedListing, errorSeries }

def readExecutor (s : Setting) : Except Setting.Fault ExecutorSettings := do
  let d := ExecutorSettings.defaults
  let settings ← readSection "ExecutorConfig"
    ["kind", "rate", "time_unit", "duration", "pre_allocated_workers", "max_workers",
      "graceful_stop", "iterations", "workers"] s
  let kind ← settings.read "kind"
    (readVariant "ExecutorKind" ExecutorKind.name ExecutorKind.all) d.kind
  let rate ← settings.read "rate" readNatural d.rate
  let timeUnit ← settings.read "time_unit" readDuration d.timeUnit
  let duration ← settings.read "duration" readDuration d.duration
  let preAllocatedWorkers ←
    settings.read "pre_allocated_workers" readNatural d.preAllocatedWorkers
  let maxWorkers ← settings.read "max_workers" readNatural d.maxWorkers
  let gracefulStop ← settings.read "graceful_stop" readDuration d.gracefulStop
  let iterations ← settings.read "iterations" readNatural d.iterations
  let workers ← settings.read "workers" readNatural d.workers
  return { kind, rate, timeUnit, duration, preAllocatedWorkers, maxWorkers, gracefulStop,
           iterations, workers }

def readLogging (s : Setting) : Except Setting.Fault LogSettings := do
  let d := LogSettings.defaults
  let settings ← readSection "LoggingConfig" ["directory", "format", "file_prefix"] s
  let directory ← settings.read "directory" (readOptional readText) d.directory
  let format ← settings.read "format"
    (readVariant "LogFormat" LogFormat.name LogFormat.all) d.format
  let filePrefix ← settings.read "file_prefix" (readOptional readText) d.filePrefix
  return { directory, format, filePrefix }

def readExporter (s : Setting) : Except Setting.Fault ExporterSettings := do
  let d := ExporterSettings.defaults
  let settings ← readSection "MetricsConfig" ["enabled", "listen"] s
  let enabled ← settings.read "enabled" readBool d.enabled
  let listen ← settings.read "listen" readAddress d.listen
  return { enabled, listen }

def readSummaryPath (s : Setting) : Except Setting.Fault (Option String) := do
  let settings ← readSection "ReportConfig" ["summary_path"] s
  settings.read "summary_path" (readOptional readText) none

/-- Reads all sections. -/
def ofSettings (s : Setting) : Except Setting.Fault Profile := do
  let settings ← readSection "LoadTestConfig"
    ["target", "scenario", "executor", "thresholds", "logging", "metrics", "report"] s
  let target ← settings.read "target" readTarget .defaults
  let scenario ← settings.read "scenario" readScenario .defaults
  let executor ← settings.read "executor" readExecutor .defaults
  let thresholds ← settings.read "thresholds" (readTable (readList readText)) []
  let logging ← settings.read "logging" readLogging .defaults
  let exporter ← settings.read "metrics" readExporter .defaults
  let summaryPath ← settings.read "report" readSummaryPath none
  return { target, scenario, executor, thresholds, logging, exporter, summaryPath }

/-! ## Sources -/

/-- Where settings come from, as far as an error tells. -/
inductive Source where
  | text
  | file (path : String)
  | environment

/-- Why there is no profile. -/
inductive LoadError where
  | missingFile (path : String)
  | notAFile (path : String)
  | malformed (source : Source)
  | unreadable (source : Source) (fault : Setting.Fault)
  | invalid (fault : Fault)

namespace LoadError

def message : LoadError → String
  | missingFile path => "configuration file " ++ path ++ " not found"
  | notAFile _ => "failed to assemble configuration sources"
  | malformed .text => "failed to parse configuration"
  | malformed (.file _) => "failed to assemble configuration sources"
  | malformed .environment => "failed to assemble configuration sources"
  | unreadable .text _ => "failed to parse configuration"
  | unreadable (.file path) _ => "failed to parse config file " ++ path
  | unreadable .environment _ => "failed to parse configuration from environment"
  | invalid fault => fault.message

/-- What lies behind the message, where there is more to say. -/
def detail? : LoadError → Option String
  | notAFile path => some ("configuration file \"" ++ path ++ "\" not found")
  | unreadable _ fault => some fault.message
  | missingFile _ | malformed _ | invalid _ => none

end LoadError

/-- Reads layered settings as a profile that makes a run. -/
def ofLayers (source : Source) (settings : Setting) : Except LoadError Profile := do
  let profile ← (ofSettings settings).mapError (.unreadable source)
  let profile := profile.withThresholds
  match profile.fault? with
  | some fault => .error (.invalid fault)
  | none => .ok profile

/-- Reads a profile from the text of a document. -/
def ofDocument (text : String) : Except LoadError Profile := do
  let some document := Toml.ofText? text | .error (.malformed .text)
  ofLayers .text (Setting.layer (.table [] none) (Setting.ofEntries none document))

/-- The variable that names a file when no other path is given. -/
def pathVariable : String := "PVZ_LOAD_CONFIG"

/-- The file to read: a given path, or the one that a variable names. -/
def sourcePath (environment : List (String × String)) (path : Option String) : Option String :=
  match path with
  | some path => some path
  | none =>
    ((environment.find? (·.1 == pathVariable)).map Prod.snd).filter fun value =>
      !isBlankText value

/-- A path as an origin: without empty parts and dots. -/
def originOf (path : String) : String :=
  String.intercalate "/" ((FileTree.partsOf path).filter fun part => part ≠ "" ∧ part ≠ ".")

/-- The text of a file. -/
def fileText (files : FileTree) (path : String) : Except LoadError String :=
  if !files.contains path then .error (.missingFile path)
  else match files.read? path with
    | some text => .ok text
    | none => .error (.notAFile path)

/-- The settings of a file, where there is one. -/
def fileSettings (files : FileTree) : Option String → Except LoadError Setting
  | none => .ok (.table [] none)
  | some path => do
    let text ← fileText files path
    match Toml.ofText? text with
    | some document =>
      .ok (Setting.layer (.table [] none) (Setting.ofEntries (some (originOf path)) document))
    | none => .error (.malformed (.file path))

/-- What an error tells of a file, or of the environment alone. -/
def sourceOf : Option String → Source
  | some path => .file path
  | none => .environment

/-- The settings of a file, where there is one, and of the environment over them. -/
def assemble (files : FileTree) (environment : List (String × String)) (path : Option String) :
    Except LoadError (Source × Setting) := do
  let base ← fileSettings files path
  return (sourceOf path, Setting.layer base (environment.filterMap Setting.ofEnvironment?))

/-- Reads a profile from a file, where there is one, and the environment. -/
def load (files : FileTree) (environment : List (String × String)) (path : Option String) :
    Except LoadError (Profile × Option String) := do
  let path := sourcePath environment path
  let (source, settings) ← assemble files environment path
  let profile ← ofLayers source settings
  return (profile, path)

end Profile

end LoadHarness
