import LoadHarness.Text.Blank
import LoadHarness.Text.Lowercase

/-!
# Scenario settings

What every iteration sends: the role it logs in with, the city of the point it creates, the
page it lists, whether it also lists through the optimized path, and the name under which
failed steps are counted.
-/

namespace LoadHarness

/-- The role that a login asks for. -/
inductive Role where
  | client
  | employee
  | moderator
  deriving DecidableEq

namespace Role

def name : Role → String
  | client => "client"
  | employee => "employee"
  | moderator => "moderator"

def all : List Role := [client, employee, moderator]

/-- The role of a name in any case, or the lower-case name that is none. -/
def ofText? (text : String) : Except String Role :=
  let lowered := lowerText text
  match all.find? (·.name == lowered) with
  | some role => .ok role
  | none => .error lowered

end Role

structure ScenarioSettings where
  role : Role
  city : String
  page : Nat
  limit : Nat
  optimizedListing : Bool
  errorSeries : String

namespace ScenarioSettings

def defaults : ScenarioSettings :=
  { role := .moderator
    city := "Moscow"
    page := 1
    limit := 10
    optimizedListing := false
    errorSeries := "scenario_errors" }

/-- The series that every run has. -/
def builtinSeries : List String :=
  ["http_req_duration", "http_req_failed", "http_reqs", "checks", "iterations",
    "dropped_iterations"]

/-- What makes settings unusable. -/
inductive Fault where
  | blankCity
  | zeroPage
  | blankErrorSeries
  | builtinErrorSeries (name : String)

namespace Fault

def message : Fault → String
  | blankCity => "scenario city cannot be empty"
  | zeroPage => "scenario page and limit must be positive"
  | blankErrorSeries => "scenario error_metric cannot be empty"
  | builtinErrorSeries name =>
    "scenario error_metric '" ++ name ++ "' collides with a built-in series"

end Fault

/-- The first fault of the settings. -/
def fault? (s : ScenarioSettings) : Option Fault :=
  if isBlankText s.city then some .blankCity
  else if s.page = 0 ∨ s.limit = 0 then some .zeroPage
  else if isBlankText s.errorSeries then some .blankErrorSeries
  else if builtinSeries.contains s.errorSeries then some (.builtinErrorSeries s.errorSeries)
  else none

end ScenarioSettings

end LoadHarness
