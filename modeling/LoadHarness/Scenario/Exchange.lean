import LoadHarness.Scenario.Step

/-!
# Requests and answers

A step sends one request. Its answer is a response with a status and a body, or the reason
why there is none. Nothing is assumed about answers: any status may come with any bytes.
-/

namespace LoadHarness

inductive Method where
  | get
  | post
  deriving DecidableEq

/-- A request of a step; the path is relative to the base address. -/
structure Request where
  step : Step
  method : Method
  path : String
  query : List (String × String)
  bearer : Option String
  body : Option JsonValue

namespace Request

def login (settings : ScenarioSettings) : Request :=
  { step := .login
    method := .post
    path := Step.login.path
    query := []
    bearer := none
    body := some (.object [("role", .string settings.role.name)]) }

def createPoint (settings : ScenarioSettings) (token : String) : Request :=
  { step := .createPoint
    method := .post
    path := Step.createPoint.path
    query := []
    bearer := some token
    body := some (.object [("city", .string settings.city)]) }

/-- The request of either listing. -/
def list (step : Step) (settings : ScenarioSettings) (token : String) : Request :=
  { step
    method := .get
    path := step.path
    query := [("page", toString settings.page), ("limit", toString settings.limit)]
    bearer := some token
    body := none }

end Request

/-- Why a request got no response. -/
inductive TransportError where
  | invalidPath (path : String) (cause : String)
  | exchange (address : String) (cause : String)
  | encoding (cause : String)
  | other (text : String)

namespace TransportError

def message : TransportError → String
  | invalidPath path cause => "invalid request path '" ++ path ++ "': " ++ cause
  | exchange address cause => "request to " ++ address ++ " failed: " ++ cause
  | encoding cause => "failed to encode request body: " ++ cause
  | other text => text

end TransportError

inductive Answer where
  | response (status : Nat) (body : ByteArray)
  | failure (error : TransportError)

namespace Answer

/-- The status of a response; zero when there is none. -/
def status : Answer → Nat
  | response status _ => status
  | failure _ => 0

/-- The value of a body that is JSON. -/
def value? : Answer → Option JsonValue
  | response _ body => JsonValue.ofBytes? body
  | failure _ => none

/-- Why there is no response. -/
def reason? : Answer → Option String
  | response .. => none
  | failure error => some error.message

end Answer

/-- How a step failed: the status it saw, the checks that did not pass and, without a
response, the reason. -/
structure StepFailure where
  step : Step
  status : Nat
  failedChecks : List String
  reason : Option String

namespace StepFailure

def detail (f : StepFailure) : String :=
  match f.reason with
  | some reason => "no response (" ++ reason ++ ")"
  | none =>
    "status " ++ toString f.status ++ ", failed checks: " ++ String.intercalate ", " f.failedChecks

/-- What could not be done, by step. -/
def task : Step → String
  | .login => "failed to get token"
  | .createPoint => "failed to create pvz"
  | .listPoints => "failed to get pvz list"
  | .listOptimized => "failed to get optimized pvz list"

def message (f : StepFailure) : String := task f.step ++ ": " ++ f.detail

end StepFailure

end LoadHarness
