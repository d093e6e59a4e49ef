import LoadHarness.Proofs.Executor.Schedule

/-!
# The account of a run

Iterations are numbered in the order of their starts, and a started iteration is in one of
three places: ready, waiting or in the history of ends. The ends that were counted together
with those that still have to be are the tally of that history. Every move of a crew keeps
this account. A schedule moreover starts nothing after it was closed, and finishes with
nobody in flight; so at the end the report counts every start once.
-/

namespace LoadHarness

namespace Crew

variable {ω τ : Type} {w : Workload ω τ} {c c' : Crew ω τ} {h g : History}

/-- The numbers of the iterations in flight. -/
def running (c : Crew ω τ) : List Nat := c.tasks.map (·.id)

/-- The tally once all who ended are counted. -/
def due (c : Crew ω τ) : Tally := c.ended.foldl Tally.record c.tally

/-- The history tells where every started iteration is and how the others ended. -/
structure Accounted (c : Crew ω τ) (h : History) : Prop where
  starts : History.starts h = List.range c.started
  places : (c.running ++ (History.endings h).map (·.1)).Perm (List.range c.started)
  tally : c.due = History.tally h
  dropped : c.dropped = h.count .dropped

/-! ## What each move changes -/

@[simp] theorem release_due (w : Workload ω τ) (now : Duration) (c : Crew ω τ) (e : Ending) :
    (c.release w now e).due = c.due.record e := by
  simp only [release]
  split <;> simp [due, tell]

@[simp] theorem release_started (w : Workload ω τ) (now : Duration) (c : Crew ω τ) (e : Ending) :
    (c.release w now e).started = c.started := by
  simp only [release]
  split <;> rfl

@[simp] theorem release_dropped (w : Workload ω τ) (now : Duration) (c : Crew ω τ) (e : Ending) :
    (c.release w now e).dropped = c.dropped := by
  simp only [release]
  split <;> rfl

/-! ## Those who leave -/

/-- Whoever is no longer in flight ended once, and the tally tells how. -/
structure Departs (c : Crew ω τ) (g : History) (c' : Crew ω τ) : Prop where
  places : (c'.running ++ (History.endings g).map (·.1)).Perm c.running
  due : c'.due = (History.endings g).foldl (fun t x => t.record x.2) c.due

namespace Departs

/-- Nobody leaves. -/
theorem keep (running : c'.running.Perm c.running) (due : c'.due = c.due)
    (noEnd : History.endings g = []) : Departs c g c' := by
  constructor
  · rw [noEnd, List.map_nil, List.append_nil]
    exact running
  · rw [noEnd, due]
    rfl

/-- An iteration that ends leaves its place for the history. -/
theorem finish {id : Nat} {e : Ending} (begun : Bool) (running : (id :: c'.running).Perm c.running)
    (due : c'.due = c.due.record e) : Departs c [.ended id e begun] c' :=
  ⟨(List.perm_append_singleton id _).trans running, due⟩

theorem trans {c'' : Crew ω τ} (first : Departs c h c') (second : Departs c' g c'') :
    Departs c (h ++ g) c'' where
  places := by
    rw [History.endings_append, List.map_append]
    refine List.Perm.trans ?_ first.places
    refine List.Perm.trans ?_ (second.places.append_right _)
    rw [List.append_assoc]
    exact List.perm_append_comm.append_left _
  due := by rw [History.endings_append, List.foldl_append, second.due, first.due]

theorem resume {now : Duration} (turn : Resume w now c g c') : Departs c g c' := by
  cases turn with
  | finish ready resumed =>
      refine finish true ?_ (release_due w now _ _)
      simp only [running, release_tasks]
      simp [tasks, ready]
  | wait ready resumed | waitForEver ready resumed =>
      refine keep ?_ rfl rfl
      refine ((sleep_tasks ready _ _ _).map _).trans (.of_eq ?_)
      simp [running, tasks, ready]
  | goOn ready resumed past =>
      refine keep ?_ rfl rfl
      simp [running, tasks, ready]

/-- Of every move that starts nothing. -/
theorem move (move : Move w c g c') (noStart : History.starts g = []) : Departs c g c' := by
  cases move with
  | @join counted rest ended =>
      refine keep (.refl _) ?_ rfl
      simp [Crew.due, ended]
  | want | unwant | drop | close => exact keep (.refl _) rfl rfl
  | start | startHanded => cases noStart
  | reorder perm => exact keep ((perm.append_right _).map _) rfl rfl
  | resume turn => exact resume turn
  | @abort t rest now ready =>
      simp only [abortFirst, ready]
      refine finish _ ?_ (release_due w now _ _)
      simp only [running, release_tasks]
      simp [tasks, ready]
  | wake now => exact keep ((wake_tasks now c).map _) rfl rfl
  | rouse => exact keep ((rouse_tasks c).map _) rfl rfl

/-- Of every chain of moves that starts nothing. -/
theorem moves (chain : Chain (Move w) c h c') (noStart : History.starts h = []) :
    Departs c h c' := by
  induction chain with
  | nil => exact keep (.refl _) rfl rfl
  | snoc _ last ih =>
      rw [History.starts_append, List.append_eq_nil_iff] at noStart
      exact (ih noStart.1).trans (move last noStart.2)

end Departs

/-! ## The account is kept -/

namespace Accounted

/-- Nothing has happened before the first start. -/
theorem assemble (w : Workload ω τ) (world : ω) (preAllocated size : Nat) :
    Accounted (Crew.assemble w world preAllocated size) [] :=
  ⟨rfl, .nil, rfl, rfl⟩

/-- The account is kept by whatever starts nothing. -/
theorem depart (account : Accounted c h) (departs : Departs c g c')
    (started : c'.started = c.started) (dropped : c'.dropped = c.dropped + g.count .dropped)
    (noStart : History.starts g = []) : Accounted c' (h ++ g) where
  starts := by rw [History.starts_append, noStart, List.append_nil, started, account.starts]
  places := by
    rw [History.endings_append, List.map_append, started]
    refine List.Perm.trans ?_ account.places
    refine List.Perm.trans ?_ (departs.places.append_right _)
    rw [List.append_assoc]
    exact List.perm_append_comm.append_left _
  tally := by
    rw [departs.due, account.tally, History.tally, History.tally, History.endings_append,
      List.foldl_append]
  dropped := by rw [dropped, account.dropped, List.count_append]

/-- A started iteration gets the next number. -/
theorem start (account : Accounted c h) (running : c'.running.Perm (c.started :: c.running))
    (started : c'.started = c.started + 1) (due : c'.due = c.due)
    (dropped : c'.dropped = c.dropped) : Accounted c' (h ++ [.started c.started]) where
  starts := by
    rw [History.starts_append, account.starts, started, List.range_succ]
    rfl
  places := by
    rw [started, List.range_succ, History.endings_append]
    refine List.Perm.trans ?_ (account.places.append_right _)
    refine List.Perm.trans ?_ (List.perm_append_singleton _ _).symm
    simpa [History.endings] using running.append_right _
  tally := by
    rw [due, account.tally]
    simp [History.tally, History.endings]
  dropped := by
    rw [dropped, account.dropped, List.count_append]
    simp

/-- The turn of an iteration keeps the account. -/
theorem resume {now : Duration} (account : Accounted c h) (turn : Resume w now c g c') :
    Accounted c' (h ++ g) := by
  have departs := Departs.resume turn
  cases turn with
  | finish =>
      exact account.depart departs (release_started w now _ _) (release_dropped w now _ _) rfl
  | wait | waitForEver | goOn => exact account.depart departs rfl rfl rfl

/-- Every move keeps the account. -/
theorem move (account : Accounted c h) (move : Move w c g c') : Accounted c' (h ++ g) := by
  have departs := Departs.move move
  cases move with
  | start | startHanded => exact account.start ((launch_tasks w _ _).map _) rfl rfl rfl
  | resume turn => exact account.resume turn
  | abort now ready =>
      refine account.depart (departs rfl) ?_ ?_ rfl
      · simp only [abortFirst, ready]
        exact release_started w now _ _
      · simp only [abortFirst, ready]
        exact release_dropped w now _ _
  | join | drop | close | want | unwant | reorder | wake | rouse =>
      exact account.depart (departs rfl) rfl rfl rfl

/-- Every chain of moves keeps the account. -/
theorem moves {k : History} (account : Accounted c k) (chain : Chain (Move w) c h c') :
    Accounted c' (k ++ h) := by
  induction chain with
  | nil => simpa using account
  | snoc _ last ih => simpa using ih.move last

end Accounted

end Crew

/-- The executor may start iterations. -/
def Stage.isStarting : Stage → Bool
  | .arriving .. | .leasing => true
  | .settling | .draining _ | .aborting | .finished => false

namespace ExecutorRun

variable {ω τ : Type} {w : Workload ω τ} {r r' : ExecutorRun ω τ} {h g : History}

/-! ## Nothing is started once starts are closed -/

/-- One event must not come before another: nothing is started after starts were closed. -/
def InOrder (x y : Event) : Prop := x = .closed → ∀ i, y ≠ .started i

/-- A closed run is in a stage that starts nothing, and nothing was started since. -/
structure Closing (r : ExecutorRun ω τ) (h : History) : Prop where
  stage : .closed ∈ h → r.stage.isStarting = false
  order : h.Pairwise InOrder

theorem Resume.eq_nil_or_ended {now : Duration} {c c' : Crew ω τ}
    (turn : Crew.Resume w now c g c') : g = [] ∨ ∃ i e, g = [.ended i e true] := by
  cases turn with
  | finish => exact .inr ⟨_, _, rfl⟩
  | wait | goOn | waitForEver => exact .inl rfl

/-- A turn has at most one event. -/
theorem Turn.length_le_one (turn : Turn w r g r') : g.length ≤ 1 := by
  cases turn with
  | resume alive resume =>
      obtain rfl | ⟨i, e, rfl⟩ := Resume.eq_nil_or_ended resume <;> simp
  | _ => simp

/-- Only a stage that starts iterations does so. -/
theorem Turn.isStarting_of_started (turn : Turn w r g r') {i : Nat} (start : .started i ∈ g) :
    r.stage.isStarting = true := by
  cases turn with
  | tick stage | lease stage | leaseHanded stage => rw [stage]; rfl
  | resume alive resume =>
      obtain rfl | ⟨i, e, rfl⟩ := Resume.eq_nil_or_ended resume <;> simp at start
  | _ => simp at start

/-- The stage of a run never starts iterations again. -/
theorem Turn.not_isStarting (turn : Turn w r g r') (past : r.stage.isStarting = false) :
    r'.stage.isStarting = false := by
  cases turn with
  | tick stage | lease stage | leaseHanded stage => simp [stage, Stage.isStarting] at past
  | close | leased | interrupt | hasten | finish | giveUp => rfl
  | want | count | reorder | resume | abort | signal | clock => exact past

theorem Turn.not_isStarting_of_closed (turn : Turn w r g r') (close : .closed ∈ g) :
    r'.stage.isStarting = false := by
  cases turn with
  | close | interrupt | hasten => rfl
  | tick => split at close <;> simp at close
  | resume alive resume =>
      obtain rfl | ⟨i, e, rfl⟩ := Resume.eq_nil_or_ended resume <;> simp at close
  | _ => simp at close

theorem Closing.turn (closing : Closing r h) (turn : Turn w r g r') : Closing r' (h ++ g) where
  stage mem := by
    rcases List.mem_append.mp mem with before | now
    · exact turn.not_isStarting (closing.stage before)
    · exact turn.not_isStarting_of_closed now
  order := by
    have alone : g.Pairwise InOrder := by
      match g, turn.length_le_one with
      | [], _ => exact .nil
      | [x], _ => exact List.pairwise_singleton InOrder x
    refine List.pairwise_append.mpr ⟨closing.order, alone, ?_⟩
    rintro x before y now rfl i rfl
    have starting := turn.isStarting_of_started now
    rw [closing.stage before] at starting
    exact Bool.noConfusion starting

/-! ## A finished run has nobody in flight -/

/-- A run that is finished has nobody in flight and has counted every end. -/
structure Emptied (r : ExecutorRun ω τ) : Prop where
  ready : r.crew.ready = []
  sleeping : r.crew.sleeping = []
  counted : r.crew.ended = []

theorem isFinished_iff : r.isFinished = true ↔ r.stage = .finished := by
  simp only [isFinished]
  split <;> simp_all

theorem Turn.emptied (turn : Turn w r g r') (kept : r.isFinished = true → Emptied r)
    (finished : r'.isFinished = true) : Emptied r' := by
  rw [isFinished_iff] at kept finished
  cases turn with
  | tick | close | leased | interrupt | hasten | giveUp => cases finished
  | lease stage | leaseHanded stage | want stage | abort stage =>
      rw [stage] at finished
      cases finished
  | finish stage idle counted =>
      simp only [Crew.isIdle, Bool.and_eq_true, List.isEmpty_iff] at idle
      exact ⟨idle.1, idle.2, counted⟩
  | count ended =>
      have empty := kept finished
      rw [empty.counted] at ended
      exact ⟨empty.ready, empty.sleeping, (List.append_eq_nil_iff.mp ended.symm).2⟩
  | reorder perm =>
      have empty := kept finished
      exact ⟨List.perm_nil.mp (empty.ready ▸ perm), empty.sleeping, empty.counted⟩
  | resume alive resume =>
      have empty := (kept finished).ready
      cases resume <;> simp_all
  | signal => exact ⟨(kept finished).ready, (kept finished).sleeping, (kept finished).counted⟩
  | clock instant =>
      have empty := kept finished
      constructor <;> simp [moveTo, Crew.wake, empty.ready, empty.sleeping, empty.counted]

/-! ## What a whole run keeps -/

variable {s : ExecutorSettings} {shutdown : Shutdown} {world : ω}

theorem Schedule.accounted (run : Schedule w (begin w s shutdown world) h r) :
    r.crew.Accounted h := by
  have account := Crew.Accounted.assemble w world s.poolSizes.1 s.poolSizes.2
  simpa using account.moves run.moves

theorem Schedule.closing (run : Schedule w (begin w s shutdown world) h r) : Closing r h := by
  induction run with
  | nil => exact ⟨fun mem => by simp at mem, .nil⟩
  | snoc _ last ih => exact ih.turn last

theorem Schedule.emptied (run : Schedule w (begin w s shutdown world) h r)
    (finished : r.isFinished = true) : Emptied r := by
  induction run with
  | nil =>
      simp only [isFinished_iff, begin] at finished
      cases kind : s.kind <;> simp [kind] at finished
  | snoc _ last ih => exact last.emptied ih finished

/-- At the end the executor has counted every end. -/
theorem Schedule.counted (run : Schedule w (begin w s shutdown world) h r)
    (finished : r.isFinished = true) :
    r.crew.tally = ⟨History.endedBy (· = .completed) h, History.endedBy (· ≠ .completed) h⟩ := by
  rw [← History.tally_eq, ← run.accounted.tally, Crew.due, (run.emptied finished).counted]
  rfl

/-- At the end every number that was given out belongs to one end. -/
theorem Schedule.ends (run : Schedule w (begin w s shutdown world) h r)
    (finished : r.isFinished = true) :
    ((History.endings h).map (·.1)).Perm (List.range r.crew.started) := by
  have empty := run.emptied finished
  simpa [Crew.running, Crew.tasks, empty.ready, empty.sleeping] using run.accounted.places

theorem Schedule.total (run : Schedule w (begin w s shutdown world) h r)
    (finished : r.isFinished = true) :
    r.crew.tally.completed + r.crew.tally.failed = r.crew.started := by
  have total := History.tally_total h
  rw [History.tally_eq, ← run.counted finished] at total
  have ends := (run.ends finished).length_eq
  rw [List.length_map, List.length_range] at ends
  exact total.trans ends

/-- When an executor returns, whoever took turns in whatever order, nobody is in flight and
every start is counted once: iterations were started with the numbers from zero on, in order,
while a dropped start used up none; each of them ended once; those that completed and all
others are counted apart; and nothing was started after shutdown or the end of the time was
seen. -/
theorem finished_account (w : Workload ω τ) (s : ExecutorSettings) (shutdown : Shutdown)
    (world : ω) (h : History) (r : ExecutorRun ω τ)
    (run : Schedule w (begin w s shutdown world) h r) (finished : r.isFinished = true) :
    r.crew.inFlight = 0 ∧
      r.report.completed + r.report.failed = r.report.started ∧
      History.starts h = List.range r.report.started ∧
      r.report.dropped = h.count .dropped ∧
      ((History.endings h).map (·.1)).Perm (List.range r.report.started) ∧
      r.report.completed = History.endedBy (· = .completed) h ∧
      r.report.failed = History.endedBy (· ≠ .completed) h ∧
      h.Pairwise InOrder := by
  have account := run.accounted
  have empty := run.emptied finished
  have tally := run.counted finished
  refine ⟨?_, run.total finished, account.starts, account.dropped, run.ends finished, ?_, ?_,
    run.closing.order⟩
  · simp [Crew.inFlight, empty.ready, empty.sleeping]
  · exact congrArg Tally.completed tally
  · exact congrArg Tally.failed tally

/-- Even iterations complete at once; odd ones wait for a millisecond and then fail. -/
def evenSucceed : Workload Unit Unit where
  resume _ i _
    | none => ((), if i % 2 = 0 then .finish .completed else .wait (.ofMillis 1) ())
    | some _ => ((), .finish .failed)
  abandon _ _ _ _ := ()
  notice _ _ _ := ()
  waits := 1

/-- Three iterations over two workers. -/
def threeByTwo : ExecutorSettings :=
  { ExecutorSettings.defaults with kind := .fixedIterations, iterations := 3, workers := 2 }

/-- The run in which all three of them are started. -/
def evenRun : ExecutorRun Unit Unit := execute evenSucceed threeByTwo .never ()

theorem evenRun_counts :
    evenRun.isFinished = true ∧ List.range evenRun.report.started = [0, 1, 2] ∧
      evenRun.report.completed = 2 ∧ evenRun.report.failed = 1 := by
  decide +kernel

theorem finished_account_evenSucceed :
    ∃ h, Schedule evenSucceed (begin evenSucceed threeByTwo .never ()) h evenRun ∧
      History.starts h = [0, 1, 2] ∧
      History.endedBy (· = .completed) h = 2 ∧ History.endedBy (· ≠ .completed) h = 1 := by
  obtain ⟨h, run⟩ := leads_execute evenSucceed threeByTwo .never ()
  obtain ⟨finished, range, succeeded, others⟩ := evenRun_counts
  obtain ⟨-, -, starts, -, -, completed, failed, -⟩ :=
    finished_account evenSucceed threeByTwo .never () h evenRun run finished
  refine ⟨h, run, ?_, ?_, ?_⟩
  · rw [starts, range]
  · rw [← completed, succeeded]
  · rw [← failed, others]

end ExecutorRun

end LoadHarness
