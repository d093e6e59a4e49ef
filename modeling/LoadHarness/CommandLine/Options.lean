import LoadHarness.Duration.Text
import LoadHarness.Profile.Reader

/-!
# Command line options

The program runs a load test or prints the settings in effect. Options that belong to all
commands may stand before or after the name of the command. No option is given twice at one
place, and what is not understood is refused as a whole.
-/

namespace LoadHarness

namespace CommandLine

/-- Settings of a run that take the place of those in the profile. -/
structure Overrides where
  baseUrl : Option Url
  rate : Option Nat
  duration : Option Duration
  iterations : Option Nat
  summaryPath : Option String

namespace Overrides

def none : Overrides := ⟨.none, .none, .none, .none, .none⟩

/-- A number of iterations also chooses the executor that runs so many. -/
def apply (o : Overrides) (p : Profile) : Profile :=
  { p with
    target := { p.target with baseUrl := o.baseUrl.getD p.target.baseUrl }
    executor :=
      { p.executor with
        rate := o.rate.getD p.executor.rate
        duration := o.duration.getD p.executor.duration
        kind := if o.iterations.isSome then .fixedIterations else p.executor.kind
        iterations := o.iterations.getD p.executor.iterations }
    summaryPath := o.summaryPath <|> p.summaryPath }

end Overrides

inductive Command where
  | run (overrides : Overrides)
  | validate

/-- What the options ask for. -/
structure Options where
  configPath : Option String
  version : Bool
  command : Command

/-- Why options ask for nothing. -/
inductive Usage where
  /-- Help was asked for. -/
  | help
  /-- Something was not understood. -/
  | invalid
  deriving DecidableEq

/-! ## Reading options -/

/-- A text that can be the value of an option when it stands on its own. -/
def isValue (s : String) : Bool := !s.startsWith "-" || s == "-"

/-- The value of an option: after an equals sign, or the next argument. -/
def valueOf (name argument : String) (rest : List String) :
    Except Usage (String × List String) :=
  if argument = name then
    match rest with
    | value :: rest => if isValue value then .ok (value, rest) else .error .invalid
    | [] => .error .invalid
  else .ok ((argument.drop (name.length + 1)).toString, rest)

/-- Whether an argument is an option of a name, with or without a value of its own. -/
def names (name argument : String) : Bool :=
  argument == name || argument.startsWith (name ++ "=")

/-- Sets an option that was not set before. -/
def setOnce {α : Type} (old : Option α) (value : Option α) : Except Usage (Option α) :=
  match old, value with
  | .none, some value => .ok (some value)
  | _, _ => .error .invalid

/-- A path, which is not empty. -/
def pathOf? (s : String) : Option String := if s.isEmpty then .none else some s

/-- Takes an option of a run with its value. -/
def Overrides.take (o : Overrides) (name value : String) : Except Usage Overrides :=
  match name with
  | "--base-url" =>
    (setOnce o.baseUrl (Url.ofText? value).toOption).map fun baseUrl => { o with baseUrl }
  | "--rate" => (setOnce o.rate (Setting.naturalOf? value)).map fun rate => { o with rate }
  | "--duration" =>
    (setOnce o.duration (Duration.ofText? value)).map fun duration => { o with duration }
  | "--iterations" =>
    (setOnce o.iterations (Setting.naturalOf? value)).map fun iterations =>
      { o with iterations }
  | _ =>
    (setOnce o.summaryPath (pathOf? value)).map fun summaryPath => { o with summaryPath }

/-- The options of one place on the command line. -/
structure Level where
  configPath : Option String
  version : Bool
  overrides : Overrides

def Level.empty : Level := ⟨.none, false, .none⟩

def overrideNames : List String :=
  ["--base-url", "--rate", "--duration", "--iterations", "--summary-export"]

/-- Reads the arguments of a command. -/
def readCommand (overridable : Bool) (fuel : Nat) (l : Level) :
    List String → Except Usage Level
  | [] => .ok l
  | argument :: rest =>
    match fuel with
    | 0 => .error .invalid
    | fuel + 1 =>
      if argument = "-h" ∨ argument = "--help" then .error .help
      else if argument = "--" then (if rest.isEmpty then .ok l else .error .invalid)
      else if names "--config" argument then do
        let (value, rest) ← valueOf "--config" argument rest
        let configPath ← setOnce l.configPath (pathOf? value)
        readCommand overridable fuel { l with configPath } rest
      else
        match (if overridable then overrideNames else []).find? (names · argument) with
        | some name => do
          let (value, rest) ← valueOf name argument rest
          let overrides ← l.overrides.take name value
          readCommand overridable fuel { l with overrides } rest
        | .none => .error .invalid

/-- A path given to all commands, or the one that the environment names. The later place on
the command line wins, and the environment gives no empty path. -/
def chooseConfig (assigned? : Option String) (levels : List Level) :
    Except Usage (Option String) :=
  let given := levels.reverse.findSome? (·.configPath)
  if assigned? = some "" ∧ levels.any (·.configPath.isNone) then .error .invalid
  else .ok (given <|> assigned?)

/-- Reads the arguments up to a command and the command itself. -/
def readAll (assigned? : Option String) (fuel : Nat) (l : Level) :
    List String → Except Usage Options
  | [] => do
    let configPath ← chooseConfig assigned? [l]
    return { configPath, version := l.version, command := .run .none }
  | argument :: rest =>
    match fuel with
    | 0 => .error .invalid
    | fuel + 1 =>
      if argument = "-h" ∨ argument = "--help" then .error .help
      else if argument = "-V" ∨ argument = "--version" then
        if l.version then .error .invalid
        else readAll assigned? fuel { l with version := true } rest
      else if argument = "--" then
        if rest.isEmpty then readAll assigned? fuel l [] else .error .invalid
      else if names "--config" argument then do
        let (value, rest) ← valueOf "--config" argument rest
        let configPath ← setOnce l.configPath (pathOf? value)
        readAll assigned? fuel { l with configPath } rest
      else if argument = "run" ∨ argument = "validate" then do
        let inner ← readCommand (argument == "run") (rest.length + 1) .empty rest
        let configPath ← chooseConfig assigned? [l, inner]
        let command := if argument = "run" then Command.run inner.overrides else .validate
        return { configPath, version := l.version, command }
      else if argument = "help" then
        if rest.isEmpty ∨ rest = ["run"] ∨ rest = ["validate"] ∨ rest = ["help"] then
          .error .help
        else .error .invalid
      else .error .invalid

/-- Reads all arguments after the name of the program. -/
def Options.ofArguments (environment : List (String × String)) (arguments : List String) :
    Except Usage Options :=
  let assigned? := (environment.find? (·.1 == Profile.pathVariable)).map Prod.snd
  readAll assigned? (arguments.length + 1) .empty arguments

end CommandLine

end LoadHarness
