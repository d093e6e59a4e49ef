import LoadHarness.Proofs.Executor.Invariant
import LoadHarness.Proofs.LoadTest.Ledger
import LoadHarness.Proofs.Scenario.Ensemble

/-!
# The traffic of a run

The iterations of a load test are iterations side by side: whatever the executor does and the
target answers, a runner can be led along that sends the same requests in the same order. It is
told of an answer in the turn in which the iteration goes on with it.
-/

namespace LoadHarness

variable {σ : Type}

/-- The requests of a run, in the order in which they were sent. -/
def RunState.log (f : RunState σ) : List (Nat × Request) :=
  f.sent.reverse.map fun x => (x.iteration, x.request)

/-- The requests of one iteration, in the order in which they were sent. -/
def RunState.sentBy (i : Nat) (f : RunState σ) : List Request :=
  (f.sent.reverse.filter (·.iteration = i)).map (·.request)

namespace RunState

theorem filterMap_log (i : Nat) (f : RunState σ) :
    (f.log.filterMap fun x => if x.1 = i then some x.2 else none) = f.sentBy i := by
  rw [log, sentBy]
  induction f.sent.reverse with
  | nil => rfl
  | cons x rest ih =>
      rw [List.map_cons, List.filterMap_cons, List.filter_cons, ih]
      by_cases own : x.iteration = i
      · simp only [own, if_true, decide_true, List.map_cons]
      · simp only [own, if_false, decide_false, Bool.false_eq_true]

theorem send_log {target : Target σ} {iteration : Nat} {f f' : RunState σ} {r : Request}
    {reply : Reply} (sent : f.send target iteration r = (f', reply)) :
    f'.log = f.log ++ [(iteration, r)] := by
  have same : (f.send target iteration r).1.log = f.log ++ [(iteration, r)] := by
    simp only [send, log, List.reverse_cons, List.map_append]
    rfl
  rw [← same, sent]

/-- What the executor tells is no request. -/
theorem notice_log (settings : ScenarioSettings) (target : Target σ) (watched : Bool)
    (now : Duration) (f : RunState σ) (n : Notice) :
    ((Workload.ofScenario settings target watched).notice now f n).log = f.log := by
  simp only [Workload.ofScenario]
  split
  · cases n with
    | workers | dropped => rfl
  · rfl

end RunState

/-! ## Where iterations stand on a runner -/

/-- An iteration waits for the same answer on a runner; what follows a crash is no request. -/
def Pending.StandsIn (e : Ensemble) (id : Nat) : Pending → Prop
  | .answer a _ _ => e.member? id = some ⟨id, .awaiting a⟩
  | .silence a => e.member? id = some ⟨id, .awaiting a⟩
  | .crash => True

/-- An iteration is not on a runner before its first turn. -/
def Task.StandsIn (e : Ensemble) (t : Task Pending) : Prop :=
  match t.state with
  | none => e.member? t.id = none
  | some p => p.StandsIn e t.id

theorem Task.StandsIn.congr {e e' : Ensemble} {t : Task Pending} (stands : t.StandsIn e)
    (same : e'.member? t.id = e.member? t.id) : t.StandsIn e' := by
  obtain ⟨id, state⟩ := t
  cases state with
  | none => exact same.trans stands
  | some p =>
      cases p with
      | answer | silence => exact same.trans stands
      | crash => trivial

namespace Ensemble

variable {settings : ScenarioSettings} {id : Nat} {e e' : Ensemble} {f f' : RunState σ}
  {next : Next Pending} {p : Progress}

/-- Every iteration of a runner has its key as its number. -/
def Numbered (e : Ensemble) : Prop := ∀ k m, e.member? k = some m → m.iteration = k

theorem Numbered.put (numbered : e.Numbered) : (e.put settings id ⟨id, p⟩).Numbered := by
  intro k m mem
  by_cases own : k = id
  · subst own
    obtain rfl := Option.some.inj (put_member?_self.symm.trans mem)
    rfl
  · rw [put_member?_of_ne own] at mem
    exact numbered k m mem

/-- A runner is led along by the turn of an iteration. -/
structure Follows (settings : ScenarioSettings) (id : Nat) (e : Ensemble) (f' : RunState σ)
    (next : Next Pending) (e' : Ensemble) : Prop where
  happens : ∃ hs, e.follow? settings hs = some e'
  log : e'.sent = f'.log
  numbered : e.Numbered → e'.Numbered
  others : ∀ k, k ≠ id → e'.member? k = e.member? k
  stands : ∀ s ∈ next.state?, s.StandsIn e' id

namespace Follows

/-- Nothing has to happen when no answer is taken. -/
theorem still (log : e.sent = f'.log) (stands : ∀ s ∈ next.state?, s.StandsIn e id) :
    Follows settings id e f' next e :=
  ⟨⟨[], rfl⟩, log, fun numbered => numbered, fun _ _ => rfl, stands⟩

/-- The rest of a turn follows what happens to the iteration first. -/
theorem after {x : Happening} (happened : e.happen? settings x = some (e.put settings id ⟨id, p⟩))
    (rest : Follows settings id (e.put settings id ⟨id, p⟩) f' next e') :
    Follows settings id e f' next e' := by
  obtain ⟨⟨hs, followed⟩, log, numbered, others, stands⟩ := rest
  refine ⟨⟨x :: hs, ?_⟩, log, fun numbered' => numbered numbered'.put, fun k other => ?_, stands⟩
  · exact follow?_cons.mpr ⟨_, happened, followed⟩
  · rw [others k other, put_member?_of_ne other]

/-- A runner that is one request ahead is led along until the iteration waits. -/
theorem proceed (target : Target σ) (f : RunState σ) (p : Progress)
    (here : e.member? id = some ⟨id, p⟩)
    (log : e.sent = f.log ++ (p.request? settings).toList.map (id, ·)) :
    ∃ e', Follows settings id e (Pending.proceed settings target id f p).1
      (Pending.proceed settings target id f p).2 e' := by
  fun_induction Pending.proceed settings target id f p generalizing e with
  | case1 f outcome =>
      cases outcome with
      | ok | error => exact ⟨e, .still (log.trans (List.append_nil _)) Next.forall_finish⟩
  | case2 f a f' given latency bound sent rest =>
      have log : e.sent = f'.log := log.trans (RunState.send_log sent).symm
      have happened := happen?_answer settings given here
      have ahead : (e.put settings id ⟨id, a.resume settings id given⟩).sent =
          (f'.observe a given latency).log ++
            ((a.resume settings id given).request? settings).toList.map (id, ·) := by
        rw [put, log]
        rfl
      obtain ⟨e', follows⟩ := rest put_member?_self ahead
      exact ⟨e', follows.after happened⟩
  | case3 f a f' given delay latency sent =>
      have log : e.sent = f'.log := log.trans (RunState.send_log sent).symm
      refine ⟨e, .still log fun s waits => ?_⟩
      cases waits
      exact here
  | case4 f a f' sent =>
      have log : e.sent = f'.log := log.trans (RunState.send_log sent).symm
      exact ⟨e, .still log Next.forall_finish⟩
  | case5 f a f' delay sent =>
      have log : e.sent = f'.log := log.trans (RunState.send_log sent).symm
      refine ⟨e, .still log fun s waits => ?_⟩
      cases waits
      trivial
  | case6 f a f' sent =>
      have log : e.sent = f'.log := log.trans (RunState.send_log sent).symm
      refine ⟨e, .still log fun s waits => ?_⟩
      cases waits
      exact here

/-- A runner is led along by every turn of an iteration. -/
theorem resume {target : Target σ} {watched : Bool} {now : Duration} {t : Task Pending}
    (stands : t.StandsIn e) (log : e.sent = f.log)
    (resumed : (Workload.ofScenario settings target watched).resume now t.id f t.state =
      (f', next)) :
    ∃ e', Follows settings t.id e f' next e' := by
  obtain ⟨id, state⟩ := t
  cases state with
  | none =>
      have happened := happen?_enter settings id stands
      have ahead : (e.put settings id ⟨id, .awaiting .login⟩).sent =
          f.log ++ ((Progress.awaiting .login).request? settings).toList.map (id, ·) := by
        rw [put, log]
      obtain ⟨e', follows⟩ := proceed target f (.awaiting .login) put_member?_self ahead
      have same : Pending.proceed settings target id f (.awaiting .login) = (f', next) := resumed
      rw [same] at follows
      exact ⟨e', follows.after happened⟩
  | some pending =>
      cases pending with
      | answer a given latency =>
          have happened := happen?_answer settings given stands
          have ahead : (e.put settings id ⟨id, a.resume settings id given⟩).sent =
              (f.observe a given latency).log ++
                ((a.resume settings id given).request? settings).toList.map (id, ·) := by
            rw [put, log]
            rfl
          obtain ⟨e', follows⟩ := proceed target (f.observe a given latency)
            (a.resume settings id given) put_member?_self ahead
          have same : Pending.proceed settings target id (f.observe a given latency)
              (a.resume settings id given) = (f', next) := resumed
          rw [same] at follows
          exact ⟨e', follows.after happened⟩
      | crash =>
          have same : Pending.fall f = (f', next) := resumed
          obtain ⟨rfl, rfl⟩ := Prod.mk.inj same
          exact ⟨e, .still log Next.forall_finish⟩
      | silence a =>
          have same : (f, Next.waitForEver (Pending.silence a)) = (f', next) := resumed
          obtain ⟨rfl, rfl⟩ := Prod.mk.inj same
          refine ⟨e, .still log fun s waits => ?_⟩
          cases waits
          exact stands

end Follows

end Ensemble

/-! ## Where a crew stands on a runner -/

namespace Crew

variable {settings : ScenarioSettings} {target : Target σ} {watched : Bool}
  {c c' : Crew (RunState σ) Pending} {e e' : Ensemble} {g h : History}

/-- A runner has sent what the iterations of a crew sent, and those in flight stand on it where
they stand in the crew. -/
structure Mirrored (c : Crew (RunState σ) Pending) (e : Ensemble) : Prop where
  log : e.sent = c.world.log
  numbered : e.Numbered
  fresh : ∀ k, c.started ≤ k → e.member? k = none
  stands : ∀ t ∈ c.tasks, t.StandsIn e
  early : ∀ t ∈ c.tasks, t.id < c.started
  distinct : (c.tasks.map (·.id)).Nodup

theorem launch_log (settings : ScenarioSettings) (target : Target σ) (watched : Bool)
    (now : Duration) (c : Crew (RunState σ) Pending) :
    (c.launch (.ofScenario settings target watched) now).world.log = c.world.log :=
  RunState.notice_log settings target watched now c.world _

theorem release_log (settings : ScenarioSettings) (target : Target σ) (watched : Bool)
    (now : Duration) (c : Crew (RunState σ) Pending) (e : Ending) :
    (c.release (.ofScenario settings target watched) now e).world.log = c.world.log := by
  simp only [release]
  split <;> exact RunState.notice_log settings target watched now c.world _

namespace Mirrored

/-- A crew without iterations in flight is mirrored by a runner before its first iteration. -/
theorem assemble (settings : ScenarioSettings) (target : Target σ) (watched : Bool) (state : σ)
    (metrics : RunMetrics) (preAllocated size : Nat) :
    (Crew.assemble (.ofScenario settings target watched)
      { target := state, metrics, sent := [] } preAllocated size).Mirrored .empty := by
  have log := RunState.notice_log settings target watched .zero
    { target := state, metrics, sent := [] } (Pool.ofSizes preAllocated size).openNotice
  exact ⟨log.symm, nofun, fun _ _ => rfl, nofun, nofun, List.nodup_nil⟩

/-- What sends nothing and leaves the iterations in flight as they are needs no happening. -/
theorem ofPerm (mirrored : c.Mirrored e) (tasks : c'.tasks.Perm c.tasks)
    (log : c'.world.log = c.world.log) (started : c'.started = c.started) : c'.Mirrored e where
  log := mirrored.log.trans log.symm
  numbered := mirrored.numbered
  fresh k late := mirrored.fresh k (started ▸ late)
  stands t mem := mirrored.stands t (tasks.mem_iff.mp mem)
  early t mem := started ▸ mirrored.early t (tasks.mem_iff.mp mem)
  distinct := ((tasks.map _).nodup_iff).mpr mirrored.distinct

/-- An iteration that is started is not on the runner yet. -/
theorem launch (mirrored : c.Mirrored e) (now : Duration) :
    (c.launch (.ofScenario settings target watched) now).Mirrored e := by
  have launched := launch_tasks (.ofScenario settings target watched) now c
  refine ⟨?_, mirrored.numbered, fun k late => ?_, fun t mem => ?_, fun t mem => ?_, ?_⟩
  · exact mirrored.log.trans (launch_log settings target watched now c).symm
  · exact mirrored.fresh k (Nat.le_of_succ_le late)
  · rcases List.mem_cons.mp (launched.mem_iff.mp mem) with rfl | old
    · exact mirrored.fresh c.started (Nat.le_refl _)
    · exact mirrored.stands t old
  · rcases List.mem_cons.mp (launched.mem_iff.mp mem) with rfl | old
    · exact Nat.lt_succ_self _
    · exact Nat.lt_succ_of_lt (mirrored.early t old)
  · rw [(launched.map _).nodup_iff, List.map_cons, List.nodup_cons]
    refine ⟨fun mem => ?_, mirrored.distinct⟩
    obtain ⟨t, old, same⟩ := List.mem_map.mp mem
    exact Nat.ne_of_lt (mirrored.early t old) same

/-- A turn after which the runner was led along. -/
theorem turn {t : Task Pending} {rest : List (Task Pending)} {next : Next Pending}
    {f' : RunState σ} (mirrored : c.Mirrored e) (before : c.tasks = t :: rest)
    (follows : Ensemble.Follows settings t.id e f' next e')
    (after : c'.tasks.Perm ((next.state?.map fun s => ⟨t.id, some s⟩).toList ++ rest))
    (log : c'.world.log = f'.log) (started : c'.started = c.started) : c'.Mirrored e' := by
  have early := mirrored.early
  have distinct := mirrored.distinct
  have stands := mirrored.stands
  rw [before] at early distinct stands
  rw [List.map_cons, List.nodup_cons] at distinct
  have others : ∀ u ∈ rest, u.id ≠ t.id := fun u mem same =>
    distinct.1 (same ▸ List.mem_map_of_mem mem)
  refine ⟨follows.log.trans log.symm, follows.numbered mirrored.numbered, fun k late => ?_,
    fun u mem => ?_, fun u mem => ?_, ?_⟩
  · have bound := early t List.mem_cons_self
    rw [follows.others k (by omega)]
    exact mirrored.fresh k (started ▸ late)
  · rcases List.mem_append.mp (after.mem_iff.mp mem) with own | old
    · obtain ⟨s, waits, rfl⟩ := Option.map_eq_some_iff.mp (Option.mem_toList.mp own)
      exact follows.stands s waits
    · refine (stands u (List.mem_cons_of_mem t old)).congr ?_
      exact follows.others u.id (others u old)
  · rw [started]
    rcases List.mem_append.mp (after.mem_iff.mp mem) with own | old
    · obtain ⟨s, waits, rfl⟩ := Option.map_eq_some_iff.mp (Option.mem_toList.mp own)
      exact early t List.mem_cons_self
    · exact early u (List.mem_cons_of_mem t old)
  · rw [(after.map _).nodup_iff]
    cases next.state? with
    | none => exact distinct.2
    | some s => exact List.nodup_cons.mpr distinct

/-- Every turn leads a runner along. -/
theorem resume {now : Duration} (mirrored : c.Mirrored e)
    (turned : Resume (.ofScenario settings target watched) now c g c') :
    ∃ hs e', e.follow? settings hs = some e' ∧ c'.Mirrored e' := by
  obtain ⟨t, rest, next, f', ready, resumed, after, log, started⟩ :
      ∃ t rest next f', c.ready = t :: rest ∧
        (Workload.ofScenario settings target watched).resume now t.id c.world t.state =
          (f', next) ∧
        c'.tasks.Perm ((next.state?.map fun s => ⟨t.id, some s⟩).toList ++ c.tasks.tail) ∧
        c'.world.log = f'.log ∧ c'.started = c.started := by
    cases turned with
    | @finish t rest world ending ready resumed =>
        refine ⟨t, rest, _, world, ready, resumed, ?_, ?_, ?_⟩
        · rw [release_tasks]
          simp only [tasks, ready]
          exact .refl _
        · exact release_log settings target watched now _ ending
        · exact release_started _ now _ ending
    | wait ready resumed | waitForEver ready resumed =>
        exact ⟨_, _, _, _, ready, resumed, sleep_tasks ready _ _ _, rfl, rfl⟩
    | goOn ready resumed past =>
        refine ⟨_, _, _, _, ready, resumed, ?_, rfl, rfl⟩
        simp only [tasks, ready]
        exact .refl _
  have before := tasks_of_ready ready
  have stands := mirrored.stands t (before ▸ List.mem_cons_self)
  obtain ⟨e', follows⟩ := Ensemble.Follows.resume stands mirrored.log resumed
  obtain ⟨hs, followed⟩ := follows.happens
  exact ⟨hs, e', followed, mirrored.turn before follows after log started⟩

/-- An iteration that is ended from outside sends nothing more. -/
theorem abort {t : Task Pending} {rest : List (Task Pending)} (now : Duration)
    (mirrored : c.Mirrored e) (ready : c.ready = t :: rest) :
    (c.abortFirst (.ofScenario settings target watched) now).Mirrored e := by
  have log : (c.abortFirst (.ofScenario settings target watched) now).world.log =
      c.world.log := by
    simp only [abortFirst, ready, release_log]
    split <;> rfl
  have still : Ensemble.Follows settings t.id e
      (c.abortFirst (.ofScenario settings target watched) now).world (.finish .aborted) e :=
    .still (mirrored.log.trans log.symm) Next.forall_finish
  refine mirrored.turn (tasks_of_ready ready) still ?_ rfl ?_
  · simp only [abortFirst, ready, release_tasks]
    simp only [tasks, ready]
    exact .refl _
  · simp only [abortFirst, ready, release_started]

/-- Every move leads a runner along. -/
theorem move (mirrored : c.Mirrored e)
    (moved : Move (.ofScenario settings target watched) c g c') :
    ∃ hs e', e.follow? settings hs = some e' ∧ c'.Mirrored e' := by
  cases moved with
  | resume turned => exact mirrored.resume turned
  | join | close | want | unwant =>
      exact ⟨[], e, rfl, mirrored.ofPerm (.refl _) rfl rfl⟩
  | start now | startHanded now =>
      refine ⟨[], e, rfl, launch ?_ now⟩
      exact mirrored.ofPerm (.refl _) rfl rfl
  | drop now =>
      have log := RunState.notice_log settings target watched now c.world .dropped
      exact ⟨[], e, rfl, mirrored.ofPerm (.refl _) log rfl⟩
  | reorder perm => exact ⟨[], e, rfl, mirrored.ofPerm (perm.append_right _) rfl rfl⟩
  | abort now ready => exact ⟨[], e, rfl, mirrored.abort now ready⟩
  | wake now => exact ⟨[], e, rfl, mirrored.ofPerm (wake_tasks now c) rfl rfl⟩
  | rouse => exact ⟨[], e, rfl, mirrored.ofPerm (rouse_tasks c) rfl rfl⟩

/-- Every chain of moves leads a runner along. -/
theorem moves (mirrored : c.Mirrored e)
    (chain : Chain (Move (.ofScenario settings target watched)) c h c') :
    ∃ hs e', e.follow? settings hs = some e' ∧ c'.Mirrored e' := by
  induction chain with
  | nil => exact ⟨[], e, rfl, mirrored⟩
  | snoc _ last ih =>
      obtain ⟨hs, between, followed, mirrored⟩ := ih
      obtain ⟨gs, e', followed', mirrored⟩ := mirrored.move last
      exact ⟨hs ++ gs, e', Ensemble.follow?_append.mpr ⟨between, followed, followed'⟩, mirrored⟩

end Mirrored

end Crew

namespace LoadTest

variable {t : LoadTest} {target : Target σ} {state : σ} {shutdown : Shutdown} {h : History}
  {r : ExecutorRun (RunState σ) Pending}

/-- At every moment of a load test, a runner can have sent the same requests. -/
theorem traffic (schedule : ExecutorRun.Schedule
    (.ofScenario t.profile.scenario target t.watched) (t.begin target state shutdown) h r) :
    ∃ hs e, Ensemble.run? t.profile.scenario hs = some e ∧ r.crew.Mirrored e := by
  have start : (t.begin target state shutdown).crew.Mirrored .empty := .assemble ..
  exact start.moves schedule.moves

/-- Every iteration of a load test takes its course. -/
theorem course_of_sent (schedule : ExecutorRun.Schedule
    (.ofScenario t.profile.scenario target t.watched) (t.begin target state shutdown) h r)
    {i : Nat} (sent : r.crew.world.sentBy i ≠ []) :
    ∃ given p, Course t.profile.scenario i given (r.crew.world.sentBy i) p := by
  obtain ⟨hs, e, run, mirrored⟩ := traffic schedule
  have known := Ensemble.Known.ofRun (k := i) run
  have same : e.sentBy i = r.crew.world.sentBy i := by
    rw [Ensemble.sentBy, mirrored.log, RunState.filterMap_log]
  rw [same] at known
  generalize member : e.member? i = m? at known
  generalize r.crew.world.sentBy i = requests at known sent
  cases known with
  | absent => exact absurd rfl sent
  | present entered standing =>
      obtain rfl := mirrored.numbered i _ member
      exact ⟨_, _, standing.course⟩

end LoadTest

end LoadHarness
