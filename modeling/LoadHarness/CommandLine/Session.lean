import LoadHarness.CommandLine.Options
import LoadHarness.LoadTest.Basic
import LoadHarness.Report.Text

/-!
# Sessions

What the program does with its arguments, the environment and the files around it: it prints
something and ends, or it has a load test to run. The end of a run tells whether every
threshold holds.
-/

namespace LoadHarness

namespace CommandLine

/-- How the program ends: what it prints, what it complains of, and its exit status. -/
structure Farewell where
  status : Nat
  output : String
  complaint : String

namespace Farewell

/-- The status of a run that crossed a threshold. -/
def crossedStatus : Nat := 99

def printed (output : String) : Farewell := ⟨0, output, ""⟩

def failed (message : String) : Farewell := ⟨1, "", "error: " ++ message ++ "\n"⟩

/-- The status of a program that breaks down. -/
def brokenStatus : Nat := 101

/-- The end of an executor that breaks down. -/
def brokenDown (b : ExecutorSettings.Breakdown) : Farewell :=
  ⟨brokenStatus, "", b.message ++ "\n"⟩

/-- Arguments that are not understood. -/
def misused : Farewell := ⟨2, "", ""⟩

/-- The end of a finished run. -/
def ofReport (r : RunReport) : Farewell :=
  ⟨if r.passed then 0 else crossedStatus, r.toText ++ "\n", ""⟩

end Farewell

/-- The message of an error with what lies behind it. -/
def loadMessage (e : Profile.LoadError) : String :=
  match e.detail? with
  | some detail => e.message ++ ": " ++ detail
  | none => e.message

/-- What is printed when help is asked for. -/
def help : String :=
  "Load tests for the PVZ pickup-point service\n\nCommands: run, validate, help\n"
    ++ "Options: --config <FILE>, -V, --version, -h, --help\n"
    ++ "Options of run: --base-url <URL>, --rate <N>, --duration <DURATION>, "
    ++ "--iterations <N>, --summary-export <FILE>\n"

/-- What arguments come to. -/
inductive Plan where
  | finish (farewell : Farewell)
  /-- A profile to run, with all settings of the command line. -/
  | test (profile : Profile)

/-- Prints the settings in effect if they make a load test. -/
def validate (p : Profile) : Farewell :=
  match LoadTest.ofProfile p with
  | .error e => .failed e.message
  | .ok _ =>
    match p.toDocument with
    | .ok document => .printed document
    | .error e => .failed (e.message ++ ": " ++ e.cause)

/-- A profile with the settings of the command line. -/
def override (o : Overrides) (p : Profile) : Plan :=
  let p := o.apply p
  match p.fault? with
  | some fault => .finish (.failed ("invalid command-line overrides: " ++ fault.message))
  | none => .test p

def Plan.ofOptions (files : FileTree) (environment : List (String × String)) (o : Options) :
    Plan :=
  if o.version then .finish (.printed (VersionInfo.current.extended ++ "\n"))
  else match Profile.load files environment o.configPath with
    | .error e => .finish (.failed (loadMessage e))
    | .ok (p, _) =>
      match o.command with
      | .validate => .finish (validate p)
      | .run overrides => override overrides p

/-- What arguments come to, with the environment and the files around. -/
def Plan.ofArguments (files : FileTree) (environment : List (String × String))
    (arguments : List String) : Plan :=
  match Options.ofArguments environment arguments with
  | .error .help => .finish (.printed help)
  | .error .invalid => .finish .misused
  | .ok o => Plan.ofOptions files environment o

/-! ## Logs -/

/-- The name of the program, which log files have unless the profile names another. -/
def programName : String := "pvz-load"

/-- The log file of a day. -/
def logFile (l : LogSettings) (directory : String) (day : String) : String :=
  let name := l.filePrefix.getD programName ++ ".log." ++ day
  if directory.isEmpty then name else directory ++ "/" ++ name

/-- Opens the log file of a day if the profile wants one; what it held stays. -/
def openLog (l : LogSettings) (day : String) (files : FileTree) : Except FileError FileTree :=
  match l.directory with
  | none => .ok files
  | some directory => do
    let path := logFile l directory day
    let files ← files.createDirectories directory
    let files ← files.createDirectories (FileTree.parentOf path)
    if (files.read? path).isSome then return files
    files.write path ""

/-! ## Whole sessions -/

/-- What a session leaves. -/
structure Session (σ : Type) where
  farewell : Farewell
  files : FileTree
  /-- What the run left, if there was one. -/
  state : Option (RunState σ)

/-- The end of a session with what its run came to. -/
def Session.ofRun {σ : Type} (files : FileTree) :
    Except (LoadTest.RunError σ) (LoadTest.Outcome σ) → Session σ
  | .error (.executor breakdown) => ⟨.brokenDown breakdown, files, none⟩
  | .error e => ⟨.failed e.message, files, e.state?⟩
  | .ok o => ⟨.ofReport o.report, o.files, some o.state⟩

/-- Runs a profile against a target. -/
def runProfile {σ : Type} (target : Target σ) (state : σ) (period : LoadTest.Period)
    (day : String) (files : FileTree) (p : Profile) : Session σ :=
  match openLog p.logging day files with
  | .error e => ⟨.failed e.message, files, none⟩
  | .ok files =>
    match LoadTest.ofProfile p with
    | .error e => ⟨.failed e.message, files, none⟩
    | .ok t => .ofRun files (t.run target state .never period files)

/-- A session of the program from its arguments to its end. -/
def Session.ofArguments {σ : Type} (target : Profile → Target σ) (state : σ)
    (period : LoadTest.Period) (day : String) (files : FileTree)
    (environment : List (String × String)) (arguments : List String) : Session σ :=
  match Plan.ofArguments files environment arguments with
  | .finish farewell => ⟨farewell, files, none⟩
  | .test p => runProfile (target p) state period day files p

end CommandLine

end LoadHarness
