import LoadHarness.Scenario.Iteration

/-!
# Accepted answers

A step accepts an answer that passes all of its checks. Whether an iteration goes on after an
answer, and whether the step counts as failed, depends on nothing else.
-/

namespace LoadHarness

/-- The text of a value: a string as it is, any other value in compact form. -/
def JsonValue.plainText : JsonValue → String
  | .string text => text
  | other => other.compact

namespace Answer

/-- The text of a truthy member of an answer. -/
def text? (answer : Answer) (name : String) : Option String :=
  ((answer.value?.bind (·.member? name)).filter JsonValue.isTruthy).map JsonValue.plainText

/-- The length of an answer that is an array. -/
def length? (answer : Answer) : Option Nat :=
  (answer.value?.bind JsonValue.items?).map List.length

end Answer

/-- Whether an answer passes every check of a step. -/
def Step.accepts (s : Step) (answer : Answer) : Bool :=
  (Check.ofStep s).all fun c => c.passes answer.status answer.value?

/-! ## What the checks have seen to -/

namespace Check

variable {answer : Answer} {status : Nat}

/-- The member that was checked is there when it is read. -/
theorem text_of_passes {check name : String}
    (passes : passes ⟨check, .truthyMember name⟩ status answer.value? = true) :
    answer.text? name = some (((answer.value?.getD .null).memberText? name).getD "") := by
  simp only [Check.passes] at passes
  cases body : answer.value? with
  | none =>
      rw [body] at passes
      cases passes
  | some body' =>
      cases member : body'.member? name with
      | none =>
          rw [body, Option.bind_some, member] at passes
          cases passes
      | some value =>
          rw [body, Option.bind_some, member] at passes
          have truthy : value.isTruthy = true := passes
          rw [Answer.text?, body, Option.bind_some, member, Option.filter_some, if_pos truthy]
          simp only [Option.getD_some, JsonValue.memberText?, member, truthy, if_true,
            Option.map_some]
          cases value <;> rfl

/-- The array that was checked is there when it is counted. -/
theorem length_of_passes {check : String}
    (passes : passes ⟨check, .isArray⟩ status answer.value? = true) :
    answer.length? = some (((answer.value?.getD .null).items?.map List.length).getD 0) := by
  simp only [Check.passes] at passes
  cases body : answer.value? with
  | none =>
      rw [body] at passes
      cases passes
  | some body' =>
      rw [body, Option.bind_some] at passes
      obtain ⟨items, read⟩ := Option.isSome_iff_exists.mp passes
      simp [Answer.length?, body, read]

end Check

namespace Answer

variable {answer : Answer}

/-- What is read of an accepted answer is there. -/
theorem token_of_accepts (accepts : Step.login.accepts answer = true) :
    answer.text? "token" =
      some (((answer.value?.getD .null).memberText? "token").getD "") := by
  simp only [Step.accepts, Check.ofStep, List.all_cons, Bool.and_eq_true] at accepts
  exact Check.text_of_passes accepts.2.1

theorem pointId_of_accepts (accepts : Step.createPoint.accepts answer = true) :
    answer.text? "id" = some (((answer.value?.getD .null).memberText? "id").getD "") := by
  simp only [Step.accepts, Check.ofStep, List.all_cons, Bool.and_eq_true] at accepts
  exact Check.text_of_passes accepts.2.1

theorem length_of_accepts (accepts : Step.listPoints.accepts answer = true) :
    answer.length? = some (((answer.value?.getD .null).items?.map List.length).getD 0) := by
  simp only [Step.accepts, Check.ofStep, List.all_cons, Bool.and_eq_true] at accepts
  exact Check.length_of_passes accepts.2.1

end Answer

namespace Awaiting

variable {a : Awaiting} {answer : Answer}

/-- The steps that an iteration has passed when it waits for an answer. -/
def passed : Awaiting → Nat
  | .login => 0
  | .createPoint _ => 1
  | .listPoints .. => 2
  | .listOptimized .. => 3

theorem passed_le (a : Awaiting) : a.passed ≤ 3 := by
  cases a with
  | login | createPoint | listPoints | listOptimized => simp only [passed]; omega

/-- An answer is accepted when the list of its failed checks is empty. -/
theorem failedChecks_isEmpty (s : Step) (answer : Answer) :
    (failedChecks s answer).isEmpty = s.accepts answer := by
  simp only [failedChecks, Step.accepts, List.isEmpty_map]
  generalize Check.ofStep s = checks
  induction checks with
  | nil => rfl
  | cons c rest ih =>
      rw [List.filter_cons, List.all_cons]
      cases c.passes answer.status answer.value? with
      | true => simpa using ih
      | false => rfl

theorem resume_of_accepts (settings : ScenarioSettings) (iteration : Nat)
    (accepted : a.step.accepts answer = true) :
    a.resume settings iteration answer =
      a.advance settings iteration (answer.value?.getD .null) := by
  rw [resume, failedChecks_isEmpty, accepted, if_pos rfl]

theorem resume_of_refuses (settings : ScenarioSettings) (iteration : Nat)
    (refused : a.step.accepts answer = false) :
    a.resume settings iteration answer =
      .finished (.error ⟨a.step, answer.status, failedChecks a.step answer, answer.reason?⟩) := by
  rw [resume, failedChecks_isEmpty, refused, if_neg Bool.false_ne_true]

end Awaiting

namespace Observation

/-- What is observed of a step ends with its outcome: it failed unless it accepts the answer. -/
theorem ofAnswer_eq (s : Step) (answer : Answer) (latency : Duration) :
    ofAnswer s answer latency =
      request s answer.status latency
        :: (Check.ofStep s).map (fun c => check s c.name (c.passes answer.status answer.value?))
        ++ [step s (!s.accepts answer)] := by
  simp only [ofAnswer, Step.accepts, List.map_map, List.any_map, List.not_all_eq_any_not]
  rfl

end Observation

end LoadHarness
