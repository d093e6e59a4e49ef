import Mathlib
import LoadHarness.LoadTest.Basic
import LoadHarness.Proofs.Executor.Account
import LoadHarness.Proofs.Scenario.Acceptance

/-!
# What the metrics hold of a run

Two parties count the same iterations: the executor, when it collects those that ended, and
the iterations themselves, which tell the metrics. An iteration tells its end in the turn in
which it ends or when it is ended while it waits. One that is ended before its first turn
tells nothing. Steps are told one by one; what an iteration may have told of passed steps
before it ended is its credit.
-/

namespace LoadHarness

/-! ## Credits -/

/-- The most steps that a waiting iteration has passed. -/
def Pending.credit : Pending → Nat
  | .answer a _ _ => a.passed
  | .silence a => a.passed
  | .crash => 3

theorem Pending.credit_le (p : Pending) : p.credit ≤ 3 := by
  cases p with
  | answer a | silence a => exact a.passed_le
  | crash => exact Nat.le_refl 3

/-- The most steps that an iteration in flight has passed. -/
def Task.credit (t : Task Pending) : Nat := (t.state.map Pending.credit).getD 0

/-- The most steps that an iteration has passed when it ends. -/
def Ending.credit : Ending → Nat
  | .completed => 4
  | .failed | .crashed | .aborted => 3

namespace Next

/-- The most steps that an iteration has passed after a turn. -/
def credit : Next Pending → Nat
  | .wait _ state => state.credit
  | .waitForEver state => state.credit
  | .finish e => e.credit

/-- One if the turn ends the iteration in a certain way. -/
def ends (p : Ending → Bool) : Next Pending → Nat
  | .finish e => if p e then 1 else 0
  | .wait .. | .waitForEver _ => 0

end Next

namespace Progress

/-- The most steps that an iteration has passed. -/
def credit : Progress → Nat
  | .awaiting a => a.passed
  | .finished (.ok _) => 4
  | .finished (.error _) => 3

/-- One if a step of the iteration failed. -/
def failures : Progress → Nat
  | .finished (.error _) => 1
  | .awaiting _ | .finished (.ok _) => 0

end Progress

/-! ## What is told in one turn -/

/-- What a turn adds to the metrics. Before the turn ends, `failures` failed steps are told
already and at most `credit` passed ones. -/
structure Series.Told (s s' : Series) (next : Next Pending) (failures credit : Nat) : Prop where
  completed : s'.completed = s.completed + next.ends (· = .completed)
  failed : s'.failed = s.failed + next.ends (· ≠ .completed)
  dropped : s'.dropped = s.dropped
  hits : s'.stepErrors.hits + failures = s.stepErrors.hits + next.ends (· = .failed)
  misses : s'.stepErrors.misses + credit ≤ s.stepErrors.misses + next.credit

namespace RunState

variable {σ : Type}

theorem send_metrics {target : Target σ} {iteration : Nat} {f f' : RunState σ} {r : Request}
    {reply : Reply} (sent : f.send target iteration r = (f', reply)) : f'.metrics = f.metrics := by
  have same : (f.send target iteration r).1.metrics = f.metrics := rfl
  rw [← same, sent]

/-- Observing a step tells whether it failed, and nothing of iterations. -/
theorem observe_series (f : RunState σ) (a : Awaiting) (answer : Answer) (latency : Duration) :
    (f.observe a answer latency).metrics.series.completed = f.metrics.series.completed ∧
    (f.observe a answer latency).metrics.series.failed = f.metrics.series.failed ∧
    (f.observe a answer latency).metrics.series.dropped = f.metrics.series.dropped ∧
    (f.observe a answer latency).metrics.series.stepErrors =
      f.metrics.series.stepErrors.observe (!a.step.accepts answer) := by
  simp only [observe, RunMetrics.series_recordAll, Observation.ofAnswer_eq]
  cases a <;> exact ⟨rfl, rfl, rfl, rfl⟩

end RunState

namespace Pending

variable {σ : Type} (settings : ScenarioSettings) (target : Target σ) (iteration : Nat)

/-- A passed step is one more of the iteration's credit. -/
theorem credit_advance (a : Awaiting) (body : JsonValue) :
    a.passed + 1 ≤ (a.advance settings iteration body).credit ∧
      (a.advance settings iteration body).failures = 0 := by
  cases a with
  | login | createPoint | listOptimized => exact ⟨Nat.le_refl _, rfl⟩
  | listPoints token pointId =>
      simp only [Awaiting.advance]
      split
      · exact ⟨Nat.le_refl 3, rfl⟩
      · exact ⟨Nat.le_succ 3, rfl⟩

/-- What follows an answer tells the rest of what the answer began to tell. -/
theorem told_observe {f : RunState σ} {s' : Series} {next : Next Pending} (a : Awaiting)
    (answer : Answer) (latency : Duration)
    (rest : Series.Told (f.observe a answer latency).metrics.series s' next
      (a.resume settings iteration answer).failures
      (a.resume settings iteration answer).credit) :
    Series.Told f.metrics.series s' next 0 a.passed := by
  obtain ⟨completed, failed, dropped, steps⟩ := f.observe_series a answer latency
  have hits := rest.hits
  have misses := rest.misses
  rw [steps] at hits misses
  have steps : s'.stepErrors.hits + 0 = f.metrics.series.stepErrors.hits + next.ends (· = .failed) ∧
      s'.stepErrors.misses + a.passed ≤ f.metrics.series.stepErrors.misses + next.credit := by
    cases accepted : a.step.accepts answer with
    | true =>
        have advanced := credit_advance settings iteration a (answer.value?.getD .null)
        rw [Awaiting.resume_of_accepts settings iteration accepted] at hits misses
        simp only [accepted, Rate.observe, Bool.not_true, Bool.false_eq_true, if_false]
          at hits misses
        omega
    | false =>
        have most := a.passed_le
        rw [Awaiting.resume_of_refuses settings iteration accepted] at hits misses
        simp only [accepted, Rate.observe, Bool.not_false, if_true, Progress.failures,
          Progress.credit] at hits misses
        omega
  exact ⟨completed ▸ rest.completed, failed ▸ rest.failed, dropped ▸ rest.dropped, steps.1,
    steps.2⟩

/-- A turn tells the metrics once how the iteration ended, if it did. -/
theorem told_proceed (f : RunState σ) (p : Progress) :
    Series.Told f.metrics.series (proceed settings target iteration f p).1.metrics.series
      (proceed settings target iteration f p).2 p.failures p.credit := by
  fun_induction proceed settings target iteration f p with
  | case1 f outcome =>
      cases outcome with
      | ok => exact ⟨rfl, rfl, rfl, rfl, Nat.le_refl _⟩
      | error => exact ⟨rfl, rfl, rfl, rfl, Nat.le_refl _⟩
  | case2 f a f' given latency bound sent rest =>
      rw [← RunState.send_metrics sent]
      exact told_observe settings iteration a given latency rest
  | case3 f a f' given delay latency sent | case6 f a f' sent =>
      rw [← RunState.send_metrics sent]
      exact ⟨rfl, rfl, rfl, rfl, Nat.le_refl _⟩
  | case4 f a f' sent | case5 f a f' delay sent =>
      rw [← RunState.send_metrics sent]
      exact ⟨rfl, rfl, rfl, rfl, Nat.add_le_add_left a.passed_le _⟩

/-- A turn of a workload tells the metrics once how the iteration ended, if it did. -/
theorem told_resume (watched : Bool) (now : Duration) {f f' : RunState σ} {t : Task Pending}
    {next : Next Pending}
    (resumed : (Workload.ofScenario settings target watched).resume now t.id f t.state =
      (f', next)) :
    Series.Told f.metrics.series f'.metrics.series next 0 t.credit := by
  obtain ⟨id, state⟩ := t
  have metrics := congrArg (fun x => x.1.metrics.series) resumed
  have ends := congrArg Prod.snd resumed
  simp only at metrics ends
  rw [← metrics, ← ends]
  cases state with
  | none => exact told_proceed settings target id f (.awaiting .login)
  | some pending =>
      cases pending with
      | answer a answer latency =>
          exact told_observe settings id a answer latency (told_proceed settings target id _ _)
      | crash | silence => exact ⟨rfl, rfl, rfl, rfl, Nat.le_refl _⟩

end Pending

/-! ## What a crew has told -/

namespace Crew

variable {σ : Type} {settings : ScenarioSettings} {target : Target σ} {watched : Bool}
  {c c' : Crew (RunState σ) Pending} {h g : History}

/-- The most steps that the iterations in flight have passed. -/
def credit (c : Crew (RunState σ) Pending) : Nat := (c.tasks.map Task.credit).sum

/-- The metrics agree with the history: every end is told, but not those of iterations that had
no turn, and every failed step belongs to an iteration that failed. -/
structure Recorded (watched : Bool) (c : Crew (RunState σ) Pending) (h : History) : Prop where
  completed : c.world.metrics.series.completed = History.endedBy (· = .completed) h
  failed : c.world.metrics.series.failed + (History.unbegun h).length =
    History.endedBy (· ≠ .completed) h
  dropped : watched = true →
    c.world.metrics.series.dropped = h.count .dropped % counterModulus
  hits : c.world.metrics.series.stepErrors.hits = History.endedBy (· = .failed) h
  misses : c.world.metrics.series.stepErrors.misses ≤ c.credit +
    4 * History.endedBy (· = .completed) h + 3 * History.endedBy (· ≠ .completed) h

/-- The watcher is told of workers without effect on the series. -/
theorem notice_workers (settings : ScenarioSettings) (target : Target σ) (watched : Bool)
    (now : Duration) (f : RunState σ) (active allocated : Nat) :
    ((Workload.ofScenario settings target watched).notice now f
      (.workers active allocated)).metrics.series = f.metrics.series := by
  simp only [Workload.ofScenario]
  split <;> rfl

theorem launch_series (settings : ScenarioSettings) (target : Target σ) (watched : Bool)
    (now : Duration) (c : Crew (RunState σ) Pending) :
    (c.launch (.ofScenario settings target watched) now).world.metrics.series =
      c.world.metrics.series :=
  notice_workers settings target watched now c.world _ _

theorem release_series (settings : ScenarioSettings) (target : Target σ) (watched : Bool)
    (now : Duration) (c : Crew (RunState σ) Pending) (e : Ending) :
    (c.release (.ofScenario settings target watched) now e).world.metrics.series =
      c.world.metrics.series := by
  simp only [release]
  split <;> exact notice_workers settings target watched now c.world _ _

/-- An iteration has passed no step before its first turn. -/
theorem launch_credit (settings : ScenarioSettings) (target : Target σ) (watched : Bool)
    (now : Duration) (c : Crew (RunState σ) Pending) :
    (c.launch (.ofScenario settings target watched) now).credit = c.credit := by
  have launched := launch_tasks (.ofScenario settings target watched) now c
  rw [credit, (launched.map Task.credit).sum_nat]
  exact Nat.zero_add _

/-- One iteration in flight takes the place of another. -/
theorem credit_of_perm {t u : Task Pending} {rest : List (Task Pending)}
    (before : c.tasks = t :: rest) (after : c'.tasks.Perm (u :: rest)) :
    c.credit + u.credit = t.credit + c'.credit := by
  have sum := (after.map Task.credit).sum_nat
  simp only [credit, before, sum, List.map_cons, List.sum_cons]
  omega

namespace Recorded

/-- Nothing is told before the first start. -/
theorem assemble (settings : ScenarioSettings) (target : Target σ) (state : σ)
    (preAllocated size : Nat) :
    Recorded watched
      (Crew.assemble (.ofScenario settings target watched)
        { target := state, metrics := .fresh settings.errorSeries, sent := [] }
        preAllocated size) [] := by
  have told := notice_workers settings target watched .zero
    { target := state, metrics := .fresh settings.errorSeries, sent := [] } 0
    (Pool.ofSizes preAllocated size).allocated
  constructor <;> simp only [Crew.assemble, tell, Pool.openNotice, told]
  · rfl
  · rfl
  · exact fun _ => rfl
  · rfl
  · exact Nat.zero_le _

/-- What ends no iteration and tells of dropped starts alone keeps the metrics in agreement. -/
theorem keep (recorded : Recorded watched c h)
    (series : c'.world.metrics.series =
      { c.world.metrics.series with dropped := c'.world.metrics.series.dropped })
    (credit : c.credit ≤ c'.credit) (ends : History.endings g = [])
    (begun : History.unbegun g = [])
    (dropped : watched = true → ∀ n, c.world.metrics.series.dropped = n % counterModulus →
      c'.world.metrics.series.dropped = (n + g.count .dropped) % counterModulus) :
    Recorded watched c' (h ++ g) := by
  have none (p : Ending → Bool) : History.endedBy p (h ++ g) = History.endedBy p h := by
    rw [History.endedBy_append, History.endedBy, History.endedBy, ends]
    rfl
  refine ⟨?_, ?_, fun watch => ?_, ?_, ?_⟩
  · rw [series, none]
    exact recorded.completed
  · rw [series, none, History.unbegun_append, begun, List.append_nil]
    exact recorded.failed
  · rw [List.count_append]
    exact dropped watch _ (recorded.dropped watch)
  · rw [series, none]
    exact recorded.hits
  · rw [series, none, none]
    exact Nat.le_trans recorded.misses (by omega)

/-- What ends no iteration and tells nothing keeps the metrics in agreement. -/
theorem keepSeries (recorded : Recorded watched c h)
    (series : c'.world.metrics.series = c.world.metrics.series) (credit : c.credit ≤ c'.credit)
    (ends : History.endings g = []) (begun : History.unbegun g = [])
    (dropped : g.count .dropped = 0) : Recorded watched c' (h ++ g) := by
  refine recorded.keep ?_ credit ends begun fun _ n same => ?_
  · rw [series]
  · rw [series, dropped]
    exact same

/-- A turn of an iteration that tells what it should keeps the metrics in agreement. -/
theorem turn {next : Next Pending} {credit : Nat} (recorded : Recorded watched c h)
    (told : Series.Told c.world.metrics.series c'.world.metrics.series next 0 credit)
    (ends : ∀ p, History.endedBy p g = next.ends p) (begun : History.unbegun g = [])
    (dropped : g.count .dropped = 0)
    (passed : c.credit + next.credit ≤ credit + c'.credit +
      4 * next.ends (· = .completed) + 3 * next.ends (· ≠ .completed)) :
    Recorded watched c' (h ++ g) := by
  refine ⟨?_, ?_, ?_, ?_, ?_⟩
  · rw [told.completed, recorded.completed, History.endedBy_append, ends]
  · rw [told.failed, History.unbegun_append, begun, List.append_nil, History.endedBy_append, ends,
      ← recorded.failed]
    omega
  · rw [told.dropped, List.count_append, dropped]
    exact recorded.dropped
  · rw [History.endedBy_append, ends, ← recorded.hits]
    exact told.hits
  · rw [History.endedBy_append, History.endedBy_append, ends, ends]
    have before := recorded.misses
    have after := told.misses
    omega

/-- The turn of an iteration keeps the metrics in agreement. -/
theorem resume {now : Duration} (recorded : Recorded watched c h)
    (turn : Resume (.ofScenario settings target watched) now c g c') :
    Recorded watched c' (h ++ g) := by
  cases turn with
  | @finish t rest world e ready resumed =>
      have told := Pending.told_resume settings target watched now resumed
      rw [← release_series settings target watched now { c with ready := rest, world } e] at told
      refine recorded.turn told (fun p => ?_) rfl rfl ?_
      · exact History.endedBy_ended p _ _ _
      · have credit : c.credit = t.credit + credit
            (release (.ofScenario settings target watched) now
              { c with ready := rest, world } e) := by
          simp only [credit, release_tasks]
          simp [tasks, ready]
        cases e <;> simp [Next.credit, Next.ends, Ending.credit] <;> omega
  | wait ready resumed | waitForEver ready resumed =>
      have told := Pending.told_resume settings target watched now resumed
      refine recorded.turn told (fun p => rfl) rfl rfl ?_
      exact Nat.le_of_eq (credit_of_perm (tasks_of_ready ready) (sleep_tasks ready _ _ _))
  | @goOn t rest world d state ready resumed past =>
      have told := Pending.told_resume settings target watched now resumed
      have after : tasks { c with ready := ⟨t.id, some state⟩ :: rest, world } =
          ⟨t.id, some state⟩ :: c.tasks.tail := by
        rw [tasks, tasks, ready]
        rfl
      refine recorded.turn told (fun p => rfl) rfl rfl ?_
      exact Nat.le_of_eq (credit_of_perm (tasks_of_ready ready) (.of_eq after))

/-- An iteration that is ended while it waits is told as failed; before its first turn nothing
is told. -/
theorem abort {t : Task Pending} {rest : List (Task Pending)} (now : Duration)
    (recorded : Recorded watched c h) (ready : c.ready = t :: rest) :
    Recorded watched (c.abortFirst (.ofScenario settings target watched) now)
      (h ++ [.ended t.id .aborted t.state.isSome]) := by
  obtain ⟨id, state⟩ := t
  have credit : c.credit = Task.credit ⟨id, state⟩ +
      (c.abortFirst (.ofScenario settings target watched) now).credit := by
    simp only [abortFirst, ready, Crew.credit, release_tasks]
    simp [tasks, ready]
  have series := release_series settings target watched now
  cases state with
  | some state =>
      have told : Series.Told c.world.metrics.series
          (c.abortFirst (.ofScenario settings target watched) now).world.metrics.series
          (.finish .aborted) 0 state.credit := by
        simp only [abortFirst, ready, series]
        exact ⟨rfl, rfl, rfl, rfl, Nat.add_le_add_left state.credit_le _⟩
      refine recorded.turn told (fun p => ?_) rfl rfl ?_
      · exact History.endedBy_ended p _ _ _
      · exact Nat.le_of_eq (congrArg (· + 3) credit)
  | none =>
      have same : (c.abortFirst (.ofScenario settings target watched) now).world.metrics.series =
          c.world.metrics.series := by
        simp only [abortFirst, ready, series]
      refine ⟨?_, ?_, ?_, ?_, ?_⟩
      · rw [same, recorded.completed, History.endedBy_append, History.endedBy_ended]
        rfl
      · rw [same, History.unbegun_append, List.length_append, ← Nat.add_assoc, recorded.failed,
          History.endedBy_append, History.endedBy_ended]
        rfl
      · rw [same, List.count_append]
        exact recorded.dropped
      · rw [same, recorded.hits, History.endedBy_append, History.endedBy_ended]
        rfl
      · have misses := recorded.misses
        have nothing : Task.credit ⟨id, none⟩ = 0 := rfl
        rw [credit, nothing] at misses
        rw [same, History.endedBy_append, History.endedBy_append, History.endedBy_ended,
          History.endedBy_ended]
        have one : (if decide (Ending.aborted ≠ .completed) = true then 1 else 0) = 1 := rfl
        omega

/-- Every move keeps the metrics in agreement. -/
theorem move (recorded : Recorded watched c h)
    (move : Move (.ofScenario settings target watched) c g c') :
    Recorded watched c' (h ++ g) := by
  cases move with
  | join | want | unwant | close =>
      exact recorded.keepSeries rfl (Nat.le_refl _) rfl rfl rfl
  | start now free | startHanded now handed =>
      have series := launch_series settings target watched now
      have credit := launch_credit settings target watched now
      exact recorded.keepSeries (series _) (Nat.le_of_eq (credit _).symm) rfl rfl rfl
  | drop now full =>
      cases watched with
      | true =>
          refine recorded.keep rfl (Nat.le_refl _) rfl rfl fun _ n same => ?_
          have told : (c.drop (.ofScenario settings target true) now).world.metrics.series.dropped =
              (c.world.metrics.series.dropped + 1) % counterModulus := rfl
          rw [told, same, Nat.mod_add_mod]
          rfl
      | false => exact recorded.keep rfl (Nat.le_refl _) rfl rfl nofun
  | reorder perm =>
      refine recorded.keepSeries rfl (Nat.le_of_eq ?_) rfl rfl rfl
      exact ((perm.append_right _).map _).sum_nat.symm
  | resume turn => exact recorded.resume turn
  | abort now ready => exact recorded.abort now ready
  | wake now =>
      refine recorded.keepSeries rfl (Nat.le_of_eq ?_) rfl rfl rfl
      exact ((wake_tasks now c).map _).sum_nat.symm
  | rouse =>
      refine recorded.keepSeries rfl (Nat.le_of_eq ?_) rfl rfl rfl
      exact ((rouse_tasks c).map _).sum_nat.symm

/-- Every chain of moves keeps the metrics in agreement. -/
theorem moves {k : History} (recorded : Recorded watched c k)
    (chain : Chain (Move (.ofScenario settings target watched)) c h c') :
    Recorded watched c' (k ++ h) := by
  induction chain with
  | nil => simpa using recorded
  | snoc _ last ih => simpa using ih.move last

end Recorded

end Crew

namespace LoadTest

variable {σ : Type}

/-- A load test at its start. -/
def begin (t : LoadTest) (target : Target σ) (state : σ) (shutdown : Shutdown) :
    ExecutorRun (RunState σ) Pending :=
  .begin (.ofScenario t.profile.scenario target t.watched) t.executor shutdown
    { target := state, metrics := .fresh t.profile.scenario.errorSeries, sent := [] }

/-- A load test comes to its end, whoever takes turns in whatever order. -/
structure RunsTo (t : LoadTest) (target : Target σ) (state : σ) (shutdown : Shutdown)
    (h : History) (r : ExecutorRun (RunState σ) Pending) : Prop where
  schedule : ExecutorRun.Schedule (.ofScenario t.profile.scenario target t.watched)
    (t.begin target state shutdown) h r
  finished : r.isFinished = true

variable {t : LoadTest} {target : Target σ} {state : σ} {shutdown : Shutdown} {h : History}
  {r : ExecutorRun (RunState σ) Pending}

/-- The run of the executor is one of the runs of its load test. -/
theorem execute_runsTo (finished : (t.execute target state shutdown).isFinished = true) :
    ∃ h, t.RunsTo target state shutdown h (t.execute target state shutdown) := by
  obtain ⟨h, schedule⟩ := ExecutorRun.leads_execute
    (.ofScenario t.profile.scenario target t.watched) t.executor shutdown
    { target := state, metrics := .fresh t.profile.scenario.errorSeries, sent := [] }
  exact ⟨h, schedule, finished⟩

namespace RunsTo

theorem recorded (run : t.RunsTo target state shutdown h r) :
    r.crew.Recorded t.watched h := by
  have start : (t.begin target state shutdown).crew.Recorded t.watched [] :=
    .assemble t.profile.scenario target state t.executor.poolSizes.1 t.executor.poolSizes.2
  simpa using start.moves run.schedule.moves

end RunsTo

/-- What a profile is made into. -/
theorem ofProfile_eq {p : Profile} {t : LoadTest} (made : ofProfile p = .ok t) :
    p.fault? = none ∧ t.profile = p ∧ t.executor = p.executor ∧ t.watched = true ∧
      Threshold.forRun? (.fresh p.scenario.errorSeries) p.thresholds = .ok t.thresholds := by
  simp only [ofProfile] at made
  split at made
  · cases made
  next fine =>
    split at made
    · cases made
    next thresholds read =>
      obtain rfl := Except.ok.inj made
      exact ⟨fine, rfl, rfl, rfl, read⟩

end LoadTest

end LoadHarness
