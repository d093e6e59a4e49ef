import Mathlib
import LoadHarness.Proofs.Scenario.Course

/-!
# Iterations side by side

Any number of iterations share one runner, and their answers arrive in any order. The target
may say anything to anyone: all that is asked of an answer is that someone waits for it. What
an iteration does is told by its own answers; those of the others leave it where it is.
-/

namespace LoadHarness

/-- What happens among iterations that share a runner. -/
inductive Happening where
  /-- One more iteration is run. The key tells it from all others; its number need not. -/
  | enter (key iteration : Nat)
  /-- The last request of an iteration is answered. -/
  | answer (key : Nat) (answer : Answer)

namespace Happening

/-- The iteration that it happens to. -/
def key : Happening → Nat
  | .enter key _ => key
  | .answer key _ => key

/-- The answer that is given to the iteration of a key. -/
def answerTo? (k : Nat) : Happening → Option Answer
  | .enter _ _ => none
  | .answer key given => if key = k then some given else none

/-- The answers that the iteration of a key was given, in order. -/
def answersTo (k : Nat) (hs : List Happening) : Answers := hs.filterMap (answerTo? k)

theorem answersTo_snoc (k : Nat) (hs : List Happening) (x : Happening) :
    answersTo k (hs ++ [x]) = answersTo k hs ++ (x.answerTo? k).toList := by
  rw [answersTo, List.filterMap_append]
  cases given : x.answerTo? k with
  | none => rw [List.filterMap_cons_none given]; rfl
  | some a => rw [List.filterMap_cons_some given]; rfl

theorem answerTo?_of_ne {k : Nat} {x : Happening} (other : x.key ≠ k) : x.answerTo? k = none := by
  cases x with
  | enter => rfl
  | answer key answer => exact if_neg other

end Happening

/-- An iteration of a runner: the number that it was given and where it stands. -/
structure Member where
  iteration : Nat
  progress : Progress

/-- The iterations of a runner and the requests that they sent, in order. -/
structure Ensemble where
  member? : Nat → Option Member
  sent : List (Nat × Request)

namespace Ensemble

/-- A runner before its first iteration. -/
def empty : Ensemble := ⟨fun _ => none, []⟩

/-- Takes an iteration to where it stands now; it sends the request that it then waits for. -/
def put (settings : ScenarioSettings) (key : Nat) (m : Member) (e : Ensemble) : Ensemble :=
  { member? := fun k => if k = key then some m else e.member? k
    sent := e.sent ++ (m.progress.request? settings).toList.map (key, ·) }

/-- What comes of a happening, if it can happen: a key is used once, and an answer is given to
an iteration that waits for one. -/
def happen? (settings : ScenarioSettings) (e : Ensemble) : Happening → Option Ensemble
  | .enter key iteration =>
    match e.member? key with
    | none => some (e.put settings key ⟨iteration, .awaiting .login⟩)
    | some _ => none
  | .answer key answer =>
    match e.member? key with
    | some ⟨iteration, .awaiting a⟩ =>
      some (e.put settings key ⟨iteration, a.resume settings iteration answer⟩)
    | some ⟨_, .finished _⟩ | none => none

/-- What comes of many happenings, one after the other. -/
def follow? (settings : ScenarioSettings) (e : Ensemble) (hs : List Happening) :
    Option Ensemble :=
  hs.foldlM (happen? settings) e

/-- What comes of all that happens on a runner. -/
def run? (settings : ScenarioSettings) (hs : List Happening) : Option Ensemble :=
  empty.follow? settings hs

/-- The requests that the iteration of a key sent, in order. -/
def sentBy (k : Nat) (e : Ensemble) : List Request :=
  e.sent.filterMap fun x => if x.1 = k then some x.2 else none

variable {settings : ScenarioSettings} {e e' : Ensemble} {k key : Nat} {m : Member}

theorem follow?_append {hs gs : List Happening} :
    e.follow? settings (hs ++ gs) = some e' ↔
      ∃ between, e.follow? settings hs = some between ∧
        between.follow? settings gs = some e' := by
  simp only [follow?, List.foldlM_append, Option.bind_eq_bind, Option.bind_eq_some_iff]

theorem follow?_cons {x : Happening} {hs : List Happening} :
    e.follow? settings (x :: hs) = some e' ↔
      ∃ between, e.happen? settings x = some between ∧
        between.follow? settings hs = some e' := by
  simp only [follow?, List.foldlM_cons, Option.bind_eq_bind, Option.bind_eq_some_iff]

theorem follow?_single {x : Happening} : e.follow? settings [x] = e.happen? settings x := by
  rw [follow?, List.foldlM_cons]
  exact bind_pure _

@[simp] theorem put_member?_self : (e.put settings key m).member? key = some m := if_pos rfl

theorem put_member?_of_ne (other : k ≠ key) : (e.put settings key m).member? k = e.member? k :=
  if_neg other

@[simp] theorem put_sentBy_self :
    (e.put settings key m).sentBy key =
      e.sentBy key ++ (m.progress.request? settings).toList := by
  rw [sentBy, put, List.filterMap_append]
  cases m.progress.request? settings with
  | none => rfl
  | some r => simp [sentBy]

theorem put_sentBy_of_ne (other : k ≠ key) : (e.put settings key m).sentBy k = e.sentBy k := by
  rw [sentBy, put, List.filterMap_append]
  cases m.progress.request? settings with
  | none => exact List.append_nil _
  | some r => simp [sentBy, Ne.symm other]

/-- What happens to one iteration leaves the others where they are. -/
theorem happen?_of_ne {x : Happening} (other : x.key ≠ k)
    (happened : e.happen? settings x = some e') :
    e'.member? k = e.member? k ∧ e'.sentBy k = e.sentBy k := by
  cases x with
  | enter key iteration =>
      simp only [happen?] at happened
      split at happened
      · obtain rfl := Option.some.inj happened
        exact ⟨put_member?_of_ne (Ne.symm other), put_sentBy_of_ne (Ne.symm other)⟩
      · cases happened
  | answer key answer =>
      simp only [happen?] at happened
      split at happened
      · obtain rfl := Option.some.inj happened
        exact ⟨put_member?_of_ne (Ne.symm other), put_sentBy_of_ne (Ne.symm other)⟩
      · cases happened
      · cases happened

theorem happen?_enter (settings : ScenarioSettings) (iteration : Nat)
    (vacant : e.member? k = none) :
    e.happen? settings (.enter k iteration) =
      some (e.put settings k ⟨iteration, .awaiting .login⟩) := by
  rw [happen?, vacant]

theorem happen?_answer {iteration : Nat} {a : Awaiting} (settings : ScenarioSettings)
    (given : Answer) (waits : e.member? k = some ⟨iteration, .awaiting a⟩) :
    e.happen? settings (.answer k given) =
      some (e.put settings k ⟨iteration, a.resume settings iteration given⟩) := by
  rw [happen?, waits]

/-! ## What is known of an iteration -/

/-- What is known of a key: nothing happened under it, or there is an iteration that stands
where its answers took it and has sent what they told it to. -/
inductive Known (settings : ScenarioSettings) (hs : List Happening) (k : Nat) :
    Option Member → List Request → Prop where
  | absent (fresh : ∀ i, .enter k i ∉ hs) (unanswered : Happening.answersTo k hs = []) :
      Known settings hs k none []
  | present {iteration : Nat} {p : Progress} (entered : ∀ i, .enter k i ∈ hs ↔ i = iteration)
      (standing : Standing settings iteration (Happening.answersTo k hs) p) :
      Known settings hs k (some ⟨iteration, p⟩) ((Happening.answersTo k hs).sentBy settings p)

namespace Known

variable {hs : List Happening} {x : Happening} {m? : Option Member} {sent : List Request}

theorem mem_snoc_of_ne (other : x.key ≠ k) (i : Nat) :
    .enter k i ∈ hs ++ [x] ↔ .enter k i ∈ hs := by
  rw [List.mem_append, List.mem_singleton, or_iff_left]
  rintro rfl
  exact other rfl

/-- What happens to one iteration changes nothing of what is known of the others. -/
theorem snoc_of_ne (known : Known settings hs k m? sent) (other : x.key ≠ k) :
    Known settings (hs ++ [x]) k m? sent := by
  have same : Happening.answersTo k (hs ++ [x]) = Happening.answersTo k hs := by
    rw [Happening.answersTo_snoc, Happening.answerTo?_of_ne other]
    exact List.append_nil _
  cases known with
  | absent fresh unanswered =>
      refine .absent (fun i => ?_) (same.trans unanswered)
      rw [mem_snoc_of_ne other]
      exact fresh i
  | present entered standing =>
      rw [← same]
      refine .present (fun i => ?_) (same ▸ standing)
      rw [mem_snoc_of_ne other]
      exact entered i

/-- The first happening under a key is that its iteration is run. -/
theorem enter {iteration : Nat} (known : Known settings hs k none sent) :
    Known settings (hs ++ [.enter k iteration]) k (some ⟨iteration, .awaiting .login⟩)
      (sent ++ ((Progress.awaiting .login).request? settings).toList) := by
  cases known with
  | absent fresh unanswered =>
      have still : Happening.answersTo k (hs ++ [.enter k iteration]) = [] := by
        rw [Happening.answersTo_snoc, unanswered]
        rfl
      have first : Answers.sentBy settings [] (.awaiting .login) =
          ((Progress.awaiting .login).request? settings).toList := by
        rw [Answers.sentBy, List.length_nil, Progress.pending,
          Answers.requests_succ (Step.enabled_getElem_zero settings)]
        rfl
      rw [List.nil_append, ← first, ← still]
      refine .present (fun i => ?_) (still ▸ .start settings iteration)
      rw [List.mem_append, List.mem_singleton, or_iff_right (fresh i), Happening.enter.injEq]
      exact and_iff_right rfl

/-- An answer takes an iteration to where it stands with that answer. -/
theorem answer {iteration : Nat} {a : Awaiting} {given : Answer}
    (known : Known settings hs k (some ⟨iteration, .awaiting a⟩) sent) :
    Known settings (hs ++ [.answer k given]) k
      (some ⟨iteration, a.resume settings iteration given⟩)
      (sent ++ ((a.resume settings iteration given).request? settings).toList) := by
  cases known with
  | present entered standing =>
      have longer : Happening.answersTo k (hs ++ [.answer k given]) =
          Happening.answersTo k hs ++ [given] := by
        rw [Happening.answersTo_snoc, Happening.answerTo?, if_pos rfl]
        rfl
      rw [← standing.sentBy_resume given, ← longer]
      refine .present (fun i => ?_) (longer ▸ standing.resume given)
      rw [List.mem_append, List.mem_singleton, or_iff_left nofun]
      exact entered i

/-- One happening takes what is known of a key to what is known afterwards. -/
theorem snoc {x : Happening} (known : Known settings hs k (e.member? k) (e.sentBy k))
    (happened : e.happen? settings x = some e') :
    Known settings (hs ++ [x]) k (e'.member? k) (e'.sentBy k) := by
  by_cases own : x.key = k
  · subst own
    cases x with
    | enter key iteration =>
        simp only [happen?, Happening.key] at happened known ⊢
        split at happened
        next vacant =>
          obtain rfl := Option.some.inj happened
          rw [put_member?_self, put_sentBy_self]
          exact (vacant ▸ known).enter
        next => cases happened
    | answer key answer =>
        simp only [happen?, Happening.key] at happened known ⊢
        split at happened
        next iteration a waits =>
          obtain rfl := Option.some.inj happened
          rw [put_member?_self, put_sentBy_self]
          exact (waits ▸ known).answer
        next => cases happened
        next => cases happened
  · obtain ⟨member, sent⟩ := happen?_of_ne own happened
    rw [member, sent]
    exact known.snoc_of_ne own

/-- What is known of a key after a whole run. -/
theorem ofRun (run : run? settings hs = some e) :
    Known settings hs k (e.member? k) (e.sentBy k) := by
  induction hs using List.reverseRecOn generalizing e with
  | nil =>
      obtain rfl := Option.some.inj run
      exact .absent (fun i => List.not_mem_nil) rfl
  | append_singleton hs x ih =>
      obtain ⟨before, run, happened⟩ := follow?_append.mp run
      rw [follow?_single] at happened
      exact (ih run).snoc happened

/-- An iteration that was run has taken its course. -/
theorem course {iteration : Nat} (known : Known settings hs k m? sent)
    (entered : .enter k iteration ∈ hs) :
    ∃ p, m? = some ⟨iteration, p⟩ ∧
      Course settings iteration (Happening.answersTo k hs) sent p := by
  cases known with
  | absent fresh => exact absurd entered (fresh iteration)
  | @present number p numbered standing =>
      obtain rfl := (numbered iteration).mp entered
      exact ⟨p, rfl, standing.course⟩

end Known

/-- A service answers an iteration until it ends. -/
theorem follow?_complete {σ : Type} {iteration : Nat} (service : Service σ) (state : σ)
    (p : Progress) (here : e.member? k = some ⟨iteration, p⟩) :
    ∃ e', e.follow? settings ((p.complete settings iteration service state).2.exchanges.map
        fun x => .answer k x.answer) = some e' ∧
      e'.member? k =
        some ⟨iteration, .finished (p.complete settings iteration service state).2.outcome⟩ ∧
      ∀ earlier, e.sentBy k = earlier ++ (p.request? settings).toList →
        e'.sentBy k = earlier ++ (p.complete settings iteration service state).2.requests := by
  fun_induction Progress.complete settings iteration service state p generalizing e with
  | case1 state outcome => exact ⟨e, rfl, here, fun earlier sent => sent⟩
  | case2 state a request state' answer latency replied bound state'' rest completed =>
      rename_i ih
      have happened := happen?_answer settings answer here
      have resumed : (e.put settings k ⟨iteration, a.resume settings iteration answer⟩).member? k =
          some ⟨iteration, a.resume settings iteration answer⟩ := put_member?_self
      obtain ⟨e', followed, member, sent⟩ := ih resumed
      rw [completed] at followed member sent
      refine ⟨e', ?_, member, fun earlier before => ?_⟩
      · exact follow?_cons.mpr ⟨_, happened, followed⟩
      · have after := sent (earlier ++ [request]) (by rw [put_sentBy_self, before]; rfl)
        rw [after, List.append_assoc]
        rfl

theorem answersTo_answers {α : Type} (k : Nat) (f : α → Answer) (xs : List α) :
    Happening.answersTo k (xs.map fun x => .answer k (f x)) = xs.map f := by
  induction xs with
  | nil => rfl
  | cons x rest ih =>
      rw [List.map_cons, List.map_cons, ← ih]
      exact List.filterMap_cons_some (if_pos rfl)

/-- An iteration that runs alone against a service takes its course. -/
theorem course_ofService {σ : Type} (settings : ScenarioSettings) (iteration : Nat)
    (service : Service σ) (state : σ) :
    Course settings iteration
      ((Transcript.ofService settings iteration service state).2.exchanges.map (·.answer))
      (Transcript.ofService settings iteration service state).2.requests
      (.finished (Transcript.ofService settings iteration service state).2.outcome) := by
  have entered := happen?_enter (e := empty) (k := 0) settings iteration rfl
  have waits : (empty.put settings 0 ⟨iteration, .awaiting .login⟩).member? 0 =
      some ⟨iteration, .awaiting .login⟩ := put_member?_self
  obtain ⟨e, followed, member, sent⟩ :=
    follow?_complete service state (.awaiting .login) waits
  have run := follow?_cons.mpr ⟨_, entered, followed⟩
  obtain ⟨p, here, course⟩ := (Known.ofRun (k := 0) run).course List.mem_cons_self
  have finished := Option.some.inj (member.symm.trans here)
  rw [Member.mk.injEq] at finished
  rw [← finished.2, sent [] (by rw [put_sentBy_self]; rfl)] at course
  have given := answersTo_answers 0 (·.answer)
    (Progress.complete settings iteration service state (.awaiting .login)).2.exchanges
  exact given ▸ course

/-- An iteration that runs alone takes the first of the enabled steps, each of them once. -/
theorem steps_ofService {σ : Type} (settings : ScenarioSettings) (iteration : Nat)
    (service : Service σ) (state : σ) :
    (Transcript.ofService settings iteration service state).2.requests.map (·.step) <+:
      Step.enabled settings := by
  have begins := (course_ofService settings iteration service state).begins.map (·.step)
  rwa [Step.map_step_requestWith] at begins

end Ensemble

end LoadHarness
