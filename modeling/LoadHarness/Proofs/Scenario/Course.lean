import LoadHarness.Proofs.Scenario.Acceptance

/-!
# The course of an iteration

The answers that an iteration was given determine where it stands and what it has sent. It has
sent one request for each answer and one more while it waits, always those of its first steps;
it goes on exactly as long as its answers are accepted, and it carries nothing but what its own
answers told it.
-/

namespace LoadHarness

/-- The request of a step, with the token that the iteration was given. -/
def Step.requestWith (settings : ScenarioSettings) (token : Option String) : Step → Request
  | .login =>
    { step := .login
      method := .post
      path := "dummyLogin"
      query := []
      bearer := none
      body := some (.object [("role", .string settings.role.name)]) }
  | .createPoint =>
    { step := .createPoint
      method := .post
      path := "pvz"
      query := []
      bearer := token
      body := some (.object [("city", .string settings.city)]) }
  | .listPoints =>
    { step := .listPoints
      method := .get
      path := "pvz"
      query := [("page", toString settings.page), ("limit", toString settings.limit)]
      bearer := token
      body := none }
  | .listOptimized =>
    { step := .listOptimized
      method := .get
      path := "pvz/optimized"
      query := [("page", toString settings.page), ("limit", toString settings.limit)]
      bearer := token
      body := none }

/-- The request that is on its way while an iteration waits. -/
def Progress.request? (settings : ScenarioSettings) : Progress → Option Request
  | .awaiting a => some (a.request settings)
  | .finished _ => none

/-- The answers that an iteration was given, in order. -/
abbrev Answers := List Answer

namespace Answers

/-- The token that the login was answered with. -/
def token? (given : Answers) : Option String := given[0]?.bind (·.text? "token")

/-- The identity of the point that was created. -/
def pointId? (given : Answers) : Option String := given[1]?.bind (·.text? "id")

/-- The length of the listing. -/
def listed? (given : Answers) : Option Nat := given[2]?.bind (·.length?)

/-- Every answer was accepted by its step. -/
def Accepted (settings : ScenarioSettings) (given : Answers) : Prop :=
  ∀ (i : Nat) (s : Step) (answer : Answer), (Step.enabled settings)[i]? = some s →
    given[i]? = some answer → s.accepts answer = true

/-- The first requests of an iteration. -/
def requests (settings : ScenarioSettings) (given : Answers) (n : Nat) : List Request :=
  ((Step.enabled settings).take n).map (Step.requestWith settings given.token?)

theorem Accepted.snoc {settings : ScenarioSettings} {given : Answers} {s : Step}
    {answer : Answer} (accepted : Accepted settings given)
    (next : (Step.enabled settings)[given.length]? = some s)
    (accepts : s.accepts answer = true) : Accepted settings (given ++ [answer]) := by
  intro i s' answer' step mem
  rw [List.getElem?_append] at mem
  split at mem
  · exact accepted i s' answer' step mem
  · next late =>
    have here : i = given.length := by
      have bound := (List.getElem?_eq_some_iff.mp mem).1
      simp only [List.length_cons, List.length_nil] at bound
      omega
    subst here
    rw [Nat.sub_self] at mem
    obtain rfl := Option.some.inj mem
    obtain rfl := Option.some.inj (next.symm.trans step)
    exact accepts

/-! ## One more answer -/

variable {given : Answers}

@[simp] theorem token?_snoc (answer : Answer) (later : 0 < given.length) :
    token? (given ++ [answer]) = given.token? := by
  rw [token?, token?, List.getElem?_append_left later]

@[simp] theorem pointId?_snoc (answer : Answer) (later : 1 < given.length) :
    pointId? (given ++ [answer]) = given.pointId? := by
  rw [pointId?, pointId?, List.getElem?_append_left later]

@[simp] theorem listed?_snoc (answer : Answer) (later : 2 < given.length) :
    listed? (given ++ [answer]) = given.listed? := by
  rw [listed?, listed?, List.getElem?_append_left later]

theorem token?_here (answer : Answer) (here : given.length = 0) :
    token? (given ++ [answer]) = answer.text? "token" := by
  rw [token?, ← here, List.getElem?_concat_length]
  rfl

theorem pointId?_here (answer : Answer) (here : given.length = 1) :
    pointId? (given ++ [answer]) = answer.text? "id" := by
  rw [pointId?, ← here, List.getElem?_concat_length]
  rfl

theorem listed?_here (answer : Answer) (here : given.length = 2) :
    listed? (given ++ [answer]) = answer.length? := by
  rw [listed?, ← here, List.getElem?_concat_length]
  rfl

end Answers

namespace Step

variable (settings : ScenarioSettings)

/-- The first three steps are always enabled. -/
theorem enabled_eq :
    enabled settings = .login :: .createPoint :: .listPoints ::
      if settings.optimizedListing then [.listOptimized] else [] := by
  rw [enabled]
  split <;> rfl

theorem enabled_getElem_zero : (enabled settings)[0]? = some .login := by
  rw [enabled_eq]
  rfl

theorem enabled_getElem_one : (enabled settings)[1]? = some .createPoint := by
  rw [enabled_eq]
  rfl

theorem enabled_getElem_two : (enabled settings)[2]? = some .listPoints := by
  rw [enabled_eq]
  rfl

variable {settings}

/-- An iteration logs in once, before all else. -/
theorem ne_login_of_later {i : Nat} {s : Step} (step : (enabled settings)[i]? = some s)
    (later : i ≠ 0) : s ≠ .login := by
  rintro rfl
  rw [enabled] at step
  split at step
  · match i, later with
    | 1, _ | 2, _ | 3, _ => cases step
  · match i, later with
    | 1, _ | 2, _ => cases step

/-- A request is one of its step. -/
theorem map_step_requestWith (steps : List Step) (token : Option String) :
    (steps.map (requestWith settings token)).map (·.step) = steps := by
  rw [List.map_map]
  refine (List.map_congr_left fun s _ => ?_).trans (List.map_id _)
  cases s with
  | login | createPoint | listPoints | listOptimized => rfl

theorem requestWith_bearer {s : Step} {token : Option String} (later : s ≠ .login) :
    (s.requestWith settings token).bearer = token := by
  cases s with
  | login => exact absurd rfl later
  | createPoint | listPoints | listOptimized => rfl

/-- The optimized listing is the last of four steps, or it is not enabled. -/
theorem enabled_length_of_listOptimized (last : (enabled settings)[3]? = some .listOptimized) :
    (enabled settings).length = 4 := by
  rw [enabled_eq] at last ⊢
  split at last
  · next optimized =>
    rw [if_pos optimized]
    rfl
  · cases last

end Step

/-- What an iteration carries is what its answers told it. -/
def Awaiting.Carries (given : Answers) : Awaiting → Prop
  | .login => True
  | .createPoint token => given.token? = some token
  | .listPoints token pointId => given.token? = some token ∧ given.pointId? = some pointId
  | .listOptimized token pointId listed =>
    given.token? = some token ∧ given.pointId? = some pointId ∧ given.listed? = some listed

/-- Where an iteration stands after its answers. -/
inductive Standing (settings : ScenarioSettings) (iteration : Nat) :
    Answers → Progress → Prop where
  | awaiting {given : Answers} {a : Awaiting} (place : given.length = a.passed)
      (enabled : (Step.enabled settings)[a.passed]? = some a.step)
      (accepted : given.Accepted settings) (carries : a.Carries given) :
      Standing settings iteration given (.awaiting a)
  | succeeded {given : Answers} {pointId : String} {listed : Nat}
      (all : given.length = (Step.enabled settings).length) (accepted : given.Accepted settings)
      (point : given.pointId? = some pointId) (list : given.listed? = some listed) :
      Standing settings iteration given (.finished (.ok ⟨iteration, pointId, listed⟩))
  | failed {given : Answers} {last : Answer} {failure : StepFailure}
      (enabled : (Step.enabled settings)[given.length]? = some failure.step)
      (accepted : given.Accepted settings) (refused : failure.step.accepts last = false) :
      Standing settings iteration (given ++ [last]) (.finished (.error failure))

namespace Standing

variable {settings : ScenarioSettings} {iteration : Nat} {given : Answers} {a : Awaiting}

/-- An iteration begins with the login. -/
theorem start (settings : ScenarioSettings) (iteration : Nat) :
    Standing settings iteration [] (.awaiting .login) :=
  .awaiting rfl (Step.enabled_getElem_zero settings) nofun trivial

/-- An accepted answer takes an iteration to its next step, or to its end. -/
theorem advance {answer : Answer} (place : given.length = a.passed)
    (enabled : (Step.enabled settings)[a.passed]? = some a.step)
    (accepted : Answers.Accepted settings (given ++ [answer]))
    (carries : a.Carries given) (accepts : a.step.accepts answer = true) :
    Standing settings iteration (given ++ [answer])
      (a.advance settings iteration (answer.value?.getD .null)) := by
  have longer : (given ++ [answer]).length = a.passed + 1 := by
    rw [List.length_append, place]
    rfl
  cases a with
  | login =>
      refine .awaiting longer (Step.enabled_getElem_one settings) accepted ?_
      rw [Awaiting.Carries, Answers.token?_here answer place]
      exact Answer.token_of_accepts accepts
  | createPoint token =>
      refine .awaiting longer (Step.enabled_getElem_two settings) accepted ⟨?_, ?_⟩
      · rw [Answers.token?_snoc answer (place ▸ Nat.one_pos)]
        exact carries
      · rw [Answers.pointId?_here answer place]
        exact Answer.pointId_of_accepts accepts
  | listPoints token pointId =>
      have two : given.length = 2 := place
      have token' : Answers.token? (given ++ [answer]) = some token := by
        rw [Answers.token?_snoc answer (by omega)]
        exact carries.1
      have point : Answers.pointId? (given ++ [answer]) = some pointId := by
        rw [Answers.pointId?_snoc answer (by omega)]
        exact carries.2
      have list := Answer.length_of_accepts accepts
      rw [← Answers.listed?_here answer place] at list
      simp only [Awaiting.advance]
      split
      · next optimized =>
        refine .awaiting longer ?_ accepted ⟨token', point, list⟩
        simp only [Step.enabled_eq, optimized, if_true]
        rfl
      · next plain =>
        refine .succeeded ?_ accepted point list
        rw [longer, Step.enabled_eq, if_neg plain]
        rfl
  | listOptimized token pointId listed =>
      have three : given.length = 3 := place
      refine .succeeded ?_ accepted ?_ ?_
      · rw [longer]
        exact (Step.enabled_length_of_listOptimized enabled).symm
      · rw [Answers.pointId?_snoc answer (by omega)]
        exact carries.2.1
      · rw [Answers.listed?_snoc answer (by omega)]
        exact carries.2.2

/-- The next answer takes an iteration to where it stands with that answer. -/
theorem resume (standing : Standing settings iteration given (.awaiting a)) (answer : Answer) :
    Standing settings iteration (given ++ [answer]) (a.resume settings iteration answer) := by
  cases standing with
  | awaiting place enabled accepted carries =>
      have here := enabled
      rw [← place] at here
      cases accepts : a.step.accepts answer with
      | false =>
          rw [Awaiting.resume_of_refuses settings iteration accepts]
          exact .failed here accepted accepts
      | true =>
          rw [Awaiting.resume_of_accepts settings iteration accepts]
          exact advance place enabled (accepted.snoc here accepts) carries accepts

/-- An iteration that waits has asked with its own token. -/
theorem request_eq (standing : Standing settings iteration given (.awaiting a)) :
    a.request settings = a.step.requestWith settings given.token? := by
  cases standing with
  | awaiting place enabled accepted carries =>
      cases a with
      | login => rfl
      | createPoint token =>
          have told : given.token? = some token := carries
          rw [told]
          rfl
      | listPoints token | listOptimized token =>
          rw [carries.1]
          rfl

/-- The step that an iteration waits for is the next of the enabled ones. -/
theorem next_step (standing : Standing settings iteration given (.awaiting a)) :
    (Step.enabled settings)[given.length]? = some a.step := by
  cases standing with
  | awaiting place enabled accepted carries =>
      rw [place]
      exact enabled

end Standing

/-! ## What an iteration has sent -/

namespace Progress

/-- How many requests of an iteration have no answer yet. -/
def pending : Progress → Nat
  | .awaiting _ => 1
  | .finished _ => 0

end Progress

namespace Answers

variable {settings : ScenarioSettings} {given : Answers}

/-- An answer tells nothing that an earlier request could have used. -/
theorem requests_snoc (answer : Answer) :
    requests settings (given ++ [answer]) (given.length + 1) =
      requests settings given (given.length + 1) := by
  cases given with
  | nil =>
      rw [requests, requests, Step.enabled_eq]
      rfl
  | cons first rest =>
      have later : 0 < List.length (first :: rest) := Nat.zero_lt_succ _
      rw [requests, requests, token?_snoc answer later]

/-- The next request follows those that were sent. -/
theorem requests_succ {n : Nat} {s : Step} (next : (Step.enabled settings)[n]? = some s) :
    given.requests settings (n + 1) =
      given.requests settings n ++ [s.requestWith settings given.token?] := by
  rw [requests, requests, List.take_add_one, next, List.map_append]
  rfl

end Answers

/-- What an iteration has sent, told by its answers and by where it stands. -/
def Answers.sentBy (settings : ScenarioSettings) (given : Answers) (p : Progress) :
    List Request :=
  given.requests settings (given.length + p.pending)

theorem Standing.sentBy_resume {settings : ScenarioSettings} {iteration : Nat} {given : Answers}
    {a : Awaiting} (standing : Standing settings iteration given (.awaiting a))
    (answer : Answer) :
    Answers.sentBy settings (given ++ [answer]) (a.resume settings iteration answer) =
      given.sentBy settings (.awaiting a) ++
        ((a.resume settings iteration answer).request? settings).toList := by
  have stands := standing.resume answer
  have longer : (given ++ [answer]).length = given.length + 1 := by
    rw [List.length_append]
    rfl
  have before : given.sentBy settings (.awaiting a) =
      Answers.requests settings (given ++ [answer]) (given.length + 1) :=
    (Answers.requests_snoc answer).symm
  rw [before]
  cases next : a.resume settings iteration answer with
  | finished outcome =>
      rw [Answers.sentBy, longer]
      exact (List.append_nil _).symm
  | awaiting b =>
      rw [next] at stands
      have step := stands.next_step
      rw [longer] at step
      rw [Answers.sentBy, longer, Progress.pending, Answers.requests_succ step, ← stands.request_eq]
      rfl

/-! ## The course -/

/-- The course of an iteration: what it was given, what it sent and where it stands. -/
structure Course (settings : ScenarioSettings) (iteration : Nat) (given : Answers)
    (sent : List Request) (p : Progress) : Prop where
  /-- It sends the requests of the enabled steps, in order. -/
  begins : sent <+: (Step.enabled settings).map (Step.requestWith settings given.token?)
  /-- Each of its answers is to a request, and the last request alone may have none. -/
  paired : sent.length = given.length + p.pending
  /-- It sends one more request exactly when the step before was answered and accepted. -/
  goesOn : ∀ i, i + 1 < sent.length ↔
    i + 1 < (Step.enabled settings).length ∧
      ∃ (s : Step) (answer : Answer), (Step.enabled settings)[i]? = some s ∧
        given[i]? = some answer ∧ s.accepts answer = true
  /-- The login carries no token, and every later request the one that the login gave. -/
  bearer : ∀ i r, sent[i]? = some r →
    if i = 0 then r.bearer = none
    else ∃ token, given.token? = some token ∧ r.bearer = some token
  /-- It succeeds exactly when every enabled step was sent and its answer accepted. -/
  succeeds : (∃ summary, p = .finished (.ok summary)) ↔
    ∀ (i : Nat) (s : Step), (Step.enabled settings)[i]? = some s →
      ∃ r answer, sent[i]? = some r ∧ given[i]? = some answer ∧ s.accepts answer = true
  /-- A success tells the number of the iteration, the created point and the listing. -/
  summary : ∀ summary, p = .finished (.ok summary) →
    summary.iteration = iteration ∧ given.pointId? = some summary.pointId ∧
      given.listed? = some summary.listed

namespace Standing

variable {settings : ScenarioSettings} {iteration : Nat} {given : Answers} {p : Progress}

/-- An iteration has sent no more requests than there are enabled steps. -/
theorem sent_le (standing : Standing settings iteration given p) :
    given.length + p.pending ≤ (Step.enabled settings).length := by
  cases standing with
  | awaiting place enabled accepted carries =>
      rw [place]
      exact (List.getElem?_eq_some_iff.mp enabled).1
  | succeeded all accepted point list => exact Nat.le_of_eq all
  | failed enabled accepted refused =>
      rw [List.length_append]
      exact (List.getElem?_eq_some_iff.mp enabled).1

theorem length_sentBy (standing : Standing settings iteration given p) :
    (given.sentBy settings p).length = given.length + p.pending := by
  rw [Answers.sentBy, Answers.requests, List.length_map, List.length_take]
  exact Nat.min_eq_left standing.sent_le

/-- A step was accepted when its answer is not the last, or when the iteration has not failed. -/
theorem accepts_iff (standing : Standing settings iteration given p) {i : Nat} {s : Step}
    (enabled : (Step.enabled settings)[i]? = some s) :
    (∃ answer, given[i]? = some answer ∧ s.accepts answer = true) ↔
      i < given.length ∧
        (i + 1 = given.length + p.pending → ∃ summary, p = .finished (.ok summary)) := by
  cases standing with
  | @awaiting _ a place next accepted carries =>
      constructor
      · rintro ⟨answer, mem, -⟩
        have bound := (List.getElem?_eq_some_iff.mp mem).1
        refine ⟨bound, fun last => ?_⟩
        simp only [Progress.pending] at last
        omega
      · rintro ⟨bound, -⟩
        have mem := List.getElem?_eq_getElem bound
        exact ⟨_, mem, accepted i s _ enabled mem⟩
  | succeeded all accepted point list =>
      constructor
      · rintro ⟨answer, mem, -⟩
        exact ⟨(List.getElem?_eq_some_iff.mp mem).1, fun _ => ⟨_, rfl⟩⟩
      · rintro ⟨bound, -⟩
        have mem := List.getElem?_eq_getElem bound
        exact ⟨_, mem, accepted i s _ enabled mem⟩
  | @failed before last failure next accepted refused =>
      simp only [List.length_append, List.length_cons, List.length_nil, Progress.pending]
      constructor
      · rintro ⟨answer, mem, accepts⟩
        have bound := (List.getElem?_eq_some_iff.mp mem).1
        rw [List.length_append, List.length_cons, List.length_nil] at bound
        refine ⟨bound, fun here => ?_⟩
        obtain rfl : i = before.length := by omega
        rw [List.getElem?_concat_length] at mem
        obtain rfl := Option.some.inj mem
        obtain rfl := Option.some.inj (next.symm.trans enabled)
        rw [refused] at accepts
        cases accepts
      · rintro ⟨bound, more⟩
        have early : i < before.length := by
          refine Nat.lt_of_not_le fun late => ?_
          obtain ⟨summary, contra⟩ := more (by omega)
          cases contra
        have mem := List.getElem?_eq_getElem early
        refine ⟨_, ?_, accepted i s _ enabled mem⟩
        rw [List.getElem?_append_left early]
        exact mem

theorem length_of_succeeded (standing : Standing settings iteration given p)
    (succeeded : ∃ summary, p = .finished (.ok summary)) :
    given.length = (Step.enabled settings).length ∧ p.pending = 0 := by
  obtain ⟨summary, rfl⟩ := succeeded
  cases standing with
  | succeeded all accepted point list => exact ⟨all, rfl⟩

/-- A request is followed by another when its answer was accepted and a step is left. -/
theorem goesOn_iff (standing : Standing settings iteration given p) (i : Nat) :
    i + 1 < (given.sentBy settings p).length ↔
      i + 1 < (Step.enabled settings).length ∧
        ∃ (s : Step) (answer : Answer), (Step.enabled settings)[i]? = some s ∧
          given[i]? = some answer ∧ s.accepts answer = true := by
  have most := standing.sent_le
  rw [standing.length_sentBy]
  constructor
  · intro more
    have one : p.pending ≤ 1 := by
      cases p with
      | awaiting | finished => simp only [Progress.pending]; omega
    have enabled := List.getElem?_eq_getElem (l := Step.enabled settings) (i := i) (by omega)
    obtain ⟨answer, mem, accepts⟩ :=
      (standing.accepts_iff enabled).mpr ⟨by omega, fun last => by omega⟩
    exact ⟨by omega, _, answer, enabled, mem, accepts⟩
  · rintro ⟨left, s, answer, enabled, mem, accepts⟩
    obtain ⟨bound, last⟩ := (standing.accepts_iff enabled).mp ⟨answer, mem, accepts⟩
    refine Nat.lt_of_le_of_ne (by omega) fun here => ?_
    obtain ⟨all, none⟩ := standing.length_of_succeeded (last here)
    omega

/-- An iteration succeeds when every enabled step was sent and accepted. -/
theorem succeeds_iff (standing : Standing settings iteration given p) :
    (∃ summary, p = .finished (.ok summary)) ↔
      ∀ (i : Nat) (s : Step), (Step.enabled settings)[i]? = some s →
        ∃ r answer, (given.sentBy settings p)[i]? = some r ∧ given[i]? = some answer ∧
          s.accepts answer = true := by
  have most := standing.sent_le
  have sent := standing.length_sentBy
  constructor
  · intro succeeded i s enabled
    obtain ⟨all, none⟩ := standing.length_of_succeeded succeeded
    have bound := (List.getElem?_eq_some_iff.mp enabled).1
    obtain ⟨answer, mem, accepts⟩ :=
      (standing.accepts_iff enabled).mpr ⟨by omega, fun _ => succeeded⟩
    exact ⟨_, answer, List.getElem?_eq_getElem (by omega), mem, accepts⟩
  · intro all
    obtain ⟨n, steps⟩ : ∃ n, (Step.enabled settings).length = n + 1 := by
      rw [Step.enabled_eq]
      exact ⟨_, List.length_cons⟩
    have enabled := List.getElem?_eq_getElem (l := Step.enabled settings) (i := n) (by omega)
    obtain ⟨r, answer, sent', mem, accepts⟩ := all n _ enabled
    obtain ⟨bound, last⟩ := (standing.accepts_iff enabled).mp ⟨answer, mem, accepts⟩
    exact last (by omega)

/-- A request carries what its place and the answer to the login tell it to. -/
theorem bearer_eq (standing : Standing settings iteration given p) {i : Nat} {r : Request}
    (sent : (given.sentBy settings p)[i]? = some r) :
    if i = 0 then r.bearer = none
    else ∃ token, given.token? = some token ∧ r.bearer = some token := by
  obtain ⟨bound, -⟩ := List.getElem?_eq_some_iff.mp sent
  rw [Answers.sentBy, Answers.requests, List.getElem?_map, Option.map_eq_some_iff] at sent
  obtain ⟨s, enabled, rfl⟩ := sent
  have early : i < given.length + p.pending := standing.length_sentBy ▸ bound
  rw [List.getElem?_take_of_lt early] at enabled
  split
  · next first =>
    subst first
    obtain rfl := Option.some.inj ((Step.enabled_getElem_zero settings).symm.trans enabled)
    rfl
  · next later =>
    obtain ⟨-, s', answer, first, mem, accepts⟩ := (standing.goesOn_iff 0).mp (by omega)
    obtain rfl := Option.some.inj ((Step.enabled_getElem_zero settings).symm.trans first)
    have told : given.token? = answer.text? "token" := by
      rw [Answers.token?, mem]
      rfl
    have read := Answer.token_of_accepts accepts
    refine ⟨_, told.trans read, ?_⟩
    rw [← read, ← told]
    exact Step.requestWith_bearer (Step.ne_login_of_later enabled later)

/-- The course of an iteration follows from its answers and from where it stands. -/
theorem course (standing : Standing settings iteration given p) :
    Course settings iteration given (given.sentBy settings p) p where
  begins := (List.take_prefix _ _).map _
  paired := standing.length_sentBy
  goesOn := standing.goesOn_iff
  bearer _ _ := standing.bearer_eq
  succeeds := standing.succeeds_iff
  summary summary here := by
    subst here
    cases standing with
    | succeeded all accepted point list => exact ⟨rfl, point, list⟩

end Standing

end LoadHarness
