import LoadHarness.Json.Reader
import LoadHarness.Json.Writer
import LoadHarness.Scenario.Settings

/-!
# Steps of an iteration

An iteration logs in, creates a point, lists the points and may list them once more through
the optimized path. Each step has the status of a success and two named checks.
-/

namespace LoadHarness

inductive Step where
  | login
  | createPoint
  | listPoints
  | listOptimized
  deriving DecidableEq

namespace Step

/-- All steps, in the order of an iteration. -/
def all : List Step := [login, createPoint, listPoints, listOptimized]

def name : Step → String
  | login => "login"
  | createPoint => "create_pvz"
  | listPoints => "list_pvz"
  | listOptimized => "list_pvz_optimized"

/-- The status that a success is answered with. -/
def expectedStatus : Step → Nat
  | createPoint => 201
  | login | listPoints | listOptimized => 200

/-- The path of the step's request below the base address. -/
def path : Step → String
  | login => "dummyLogin"
  | createPoint | listPoints => "pvz"
  | listOptimized => "pvz/optimized"

/-- The steps of an iteration under the settings. -/
def enabled (settings : ScenarioSettings) : List Step :=
  if settings.optimizedListing then all else [login, createPoint, listPoints]

end Step

/-- What a check asks of a response. -/
inductive Criterion where
  | status (expected : Nat)
  | truthyMember (name : String)
  | isArray

/-- A named criterion. -/
structure Check where
  name : String
  criterion : Criterion

namespace Check

/-- Whether a response meets the criterion; no body stands for one that is no JSON. -/
def passes (c : Check) (status : Nat) (body : Option JsonValue) : Bool :=
  match c.criterion with
  | .status expected => status == expected
  | .truthyMember name => ((body.bind (·.member? name)).map JsonValue.isTruthy).getD false
  | .isArray => (body.bind JsonValue.items?).isSome

/-- The checks of a step, in the order in which they are made. -/
def ofStep : Step → List Check
  | .login => [⟨"login status 200", .status 200⟩, ⟨"token present", .truthyMember "token"⟩]
  | .createPoint => [⟨"pvz status 201", .status 201⟩, ⟨"pvz id present", .truthyMember "id"⟩]
  | .listPoints => [⟨"get pvz status 200", .status 200⟩, ⟨"get pvz returns array", .isArray⟩]
  | .listOptimized =>
    [⟨"optimized get pvz status 200", .status 200⟩,
      ⟨"optimized get pvz returns array", .isArray⟩]

end Check

/-- The text of a truthy member: a text as it is, any other value in compact form. -/
def JsonValue.memberText? (body : JsonValue) (name : String) : Option String :=
  match body.member? name with
  | some value =>
    if value.isTruthy then
      match value with
      | .string text => some text
      | other => some other.compact
    else none
  | none => none

end LoadHarness
