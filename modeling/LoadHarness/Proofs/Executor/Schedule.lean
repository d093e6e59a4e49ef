import LoadHarness.Executor.Run
import LoadHarness.Proofs.Executor.Move

/-!
# Schedules of an executor run

An executor, its iterations, the one who requests shutdown and the clock take turns. A
schedule lets any of them go next: ready iterations in any order, the executor whenever it
likes, the clock to any later instant, shutdown at any time. The run of `execute` is one
schedule; a statement about all of them does not depend on how the runtime orders its turns.
-/

namespace LoadHarness

/-- The executor waits for its iterations to end. -/
def Stage.isWaiting : Stage → Bool
  | .settling | .draining _ | .aborting => true
  | .arriving .. | .leasing | .finished => false

namespace ExecutorRun

variable {ω τ : Type}

/-- When running iterations are given up if the executor stops to start any now. -/
def graceEnd (r : ExecutorRun ω τ) : Duration := r.time.afterWait r.settings.gracefulStop

/-- One turn of whoever goes next, and what it adds to the history. -/
inductive Turn (w : Workload ω τ) : ExecutorRun ω τ → History → ExecutorRun ω τ → Prop where
  /-- A due tick is taken, unless shutdown is requested or the time is up. -/
  | tick {r : ExecutorRun ω τ} {ticker deadline} (stage : r.stage = .arriving ticker deadline)
      (running : r.stopped = false) (early : r.now < deadline.timerMillis)
      (due : ticker.isDue r.time = true) :
      Turn w r [if r.crew.pool.isFull then .dropped else .started r.crew.started]
        (r.takeTick w ticker deadline)
  | close {r : ExecutorRun ω τ} {ticker deadline} (stage : r.stage = .arriving ticker deadline)
      (past : r.stopped = true ∨ deadline.timerMillis ≤ r.now) :
      Turn w r [.closed] { r with stage := .draining r.graceEnd }
  /-- A free worker is taken, unless shutdown is requested. -/
  | lease {r : ExecutorRun ω τ} (stage : r.stage = .leasing) (running : r.stopped = false)
      (more : r.crew.started < r.settings.iterations) (free : r.crew.pool.isFull = false) :
      Turn w r [.started r.crew.started] { r with crew := r.crew.join.start w r.time }
  | leaseHanded {r : ExecutorRun ω τ} (stage : r.stage = .leasing) (running : r.stopped = false)
      (more : r.crew.started < r.settings.iterations) (handed : r.crew.handed = true) :
      Turn w r [.started r.crew.started] { r with crew := r.crew.join.startHanded w r.time }
  | want {r : ExecutorRun ω τ} (stage : r.stage = .leasing) (running : r.stopped = false)
      (full : r.crew.pool.isFull = true) :
      Turn w r [] { r with crew := { r.crew with wanted := true } }
  | leased {r : ExecutorRun ω τ} (stage : r.stage = .leasing)
      (all : r.settings.iterations ≤ r.crew.started) :
      Turn w r [] { r with stage := .settling }
  | interrupt {r : ExecutorRun ω τ} (stage : r.stage = .leasing) (stopped : r.stopped = true) :
      Turn w r [.closed] { r with stage := .settling, crew := r.crew.unwant }
  | hasten {r : ExecutorRun ω τ} (stage : r.stage = .settling) (stopped : r.stopped = true) :
      Turn w r [.closed] { r with stage := .draining r.graceEnd }
  /-- Some of those that ended are counted; a wait for the rest may be broken off. -/
  | count {r : ExecutorRun ω τ} {counted rest : List Ending}
      (ended : r.crew.ended = counted ++ rest) :
      Turn w r []
        { r with
          crew :=
            { r.crew with tally := counted.foldl Tally.record r.crew.tally, ended := rest } }
  /-- The run is over once nobody is in flight and every end is counted. -/
  | finish {r : ExecutorRun ω τ} (stage : r.stage.isWaiting = true)
      (idle : r.crew.isIdle = true) (counted : r.crew.ended = []) :
      Turn w r [] { r with stage := .finished }
  | giveUp {r : ExecutorRun ω τ} {deadline} (stage : r.stage = .draining deadline)
      (past : deadline.timerMillis ≤ r.now) : Turn w r [] r.abort
  | reorder {r : ExecutorRun ω τ} {ready} (perm : ready.Perm r.crew.ready) :
      Turn w r [] { r with crew := { r.crew with ready } }
  | resume {r : ExecutorRun ω τ} {g crew} (alive : r.stage ≠ .aborting)
      (resume : r.crew.Resume w r.time g crew) : Turn w r g { r with crew }
  | abort {r : ExecutorRun ω τ} {t rest} (stage : r.stage = .aborting)
      (ready : r.crew.ready = t :: rest) :
      Turn w r [.ended t.id .aborted t.state.isSome]
        { r with crew := r.crew.abortFirst w r.time }
  /-- Shutdown may be requested at any time; a request is never taken back. -/
  | signal {r : ExecutorRun ω τ} (stopReady : Bool) (stopAt : Option Nat) {stopped : Bool}
      (kept : r.stopped = true → stopped = true) :
      Turn w r [] { r with stopReady, stopAt, stopped }
  | clock (r : ExecutorRun ω τ) (instant : Nat) : Turn w r [] (r.moveTo instant)

/-- A run in which whoever is able to may take the next turn. -/
abbrev Schedule (w : Workload ω τ) : ExecutorRun ω τ → History → ExecutorRun ω τ → Prop :=
  Chain (Turn w)

/-- Some schedule leads from one run to another. -/
def Leads (w : Workload ω τ) (r r' : ExecutorRun ω τ) : Prop := ∃ h, Schedule w r h r'

namespace Leads

variable {w : Workload ω τ} {r s t : ExecutorRun ω τ}

theorem refl (r : ExecutorRun ω τ) : Leads w r r := ⟨[], .nil r⟩

theorem trans (first : Leads w r s) (second : Leads w s t) : Leads w r t := by
  obtain ⟨h, first⟩ := first
  obtain ⟨g, second⟩ := second
  exact ⟨h ++ g, first.trans second⟩

theorem ofTurn {g : History} (turn : Turn w r g s) : Leads w r s := ⟨g, .single turn⟩

end Leads

/-! ## The executor's own run is a schedule -/

/-- A look at the waiting executor is made of counting, ending and giving up. -/
theorem leads_settle (w : Workload ω τ) (r : ExecutorRun ω τ)
    (stage : r.stage.isWaiting = true) : Leads w r r.settle := by
  have counted : Leads w r { r with crew := r.crew.join } :=
    .ofTurn (.count (List.append_nil r.crew.ended).symm)
  apply counted.trans
  simp only [settle]
  split
  · next idle => exact .ofTurn (.finish stage idle rfl)
  · split
    next deadline draining =>
      split
      · next past => exact .ofTurn (.giveUp draining past)
      · exact .refl _
    next => exact .refl _

/-- Once starts are closed the executor drains. -/
theorem leads_drain (w : Workload ω τ) {r : ExecutorRun ω τ} {g : History}
    (close : Turn w r g { r with stage := .draining r.graceEnd }) : Leads w r r.drain :=
  (Leads.ofTurn close).trans (leads_settle w { r with stage := .draining r.graceEnd } rfl)

/-- An executor that starts no more iterations settles, or drains if it has to hurry. -/
theorem leads_settleOrDrain (w : Workload ω τ) (r : ExecutorRun ω τ) :
    Leads w { r with stage := .settling } r.settleOrDrain := by
  have settled := leads_settle w { r with stage := .settling } rfl
  apply settled.trans
  simp only [settleOrDrain]
  split
  · next stage =>
    split
    · next stopped => exact leads_drain w (.hasten stage stopped)
    · exact .refl _
  · exact .refl _

/-- A look is a schedule, however many grants it has. -/
theorem leads_look (w : Workload ω τ) (grants : Nat) (r : ExecutorRun ω τ) :
    Leads w r (r.look w grants) := by
  induction grants generalizing r with
  | zero => exact .refl r
  | succ grants ih =>
      simp only [look]
      split
      next ticker deadline stage =>
        split
        · next past => exact leads_drain w (.close stage past)
        · next open_ =>
          split
          · next due =>
            simp only [not_or, Bool.not_eq_true, Nat.not_le] at open_
            exact (Leads.ofTurn (.tick stage open_.1 open_.2 due)).trans (ih _)
          · exact .refl r
      next stage =>
        split
        · next all =>
          exact (Leads.ofTurn (.leased stage all)).trans (leads_settleOrDrain w r)
        · next more =>
          split
          · next stopped =>
            exact (Leads.ofTurn (.interrupt stage stopped)).trans
              (leads_settleOrDrain w { r with crew := r.crew.unwant })
          · next running =>
            have running := Bool.eq_false_iff.mpr running
            split
            · next handed =>
              exact (Leads.ofTurn (.leaseHanded stage running (Nat.lt_of_not_le more) handed)).trans
                (ih _)
            · split
              · next full => exact .ofTurn (.want stage running full)
              · next free =>
                have free := Bool.eq_false_iff.mpr free
                exact (Leads.ofTurn (.lease stage running (Nat.lt_of_not_le more) free)).trans
                  (ih _)
      next stage =>
        have same : { r with stage := .settling } = r := by rw [← stage]
        exact same ▸ leads_settleOrDrain w r
      next stage => exact leads_settle w r (by rw [stage]; rfl)
      next stage => exact leads_settle w r (by rw [stage]; rfl)
      next => exact .refl r

/-- Resumptions of a crew are turns of its executor while nobody is being aborted. -/
theorem leads_resume (w : Workload ω τ) {r : ExecutorRun ω τ} (alive : r.stage ≠ .aborting)
    {crew : Crew ω τ} {h : History} (chain : Chain (Crew.Resume w r.time) r.crew h crew) :
    Leads w r { r with crew } := by
  refine ⟨h, ?_⟩
  induction chain with
  | nil => exact .nil r
  | snoc _ last ih => exact .snoc ih (.resume alive last)

theorem leads_runFirst (w : Workload ω τ) (r : ExecutorRun ω τ) : Leads w r (r.runFirst w) := by
  simp only [runFirst]
  split
  next stage =>
    simp only [Crew.abortFirst]
    split
    next ready => exact .refl r
    next t rest ready =>
      have turn := Turn.abort (w := w) stage ready
      simp only [Crew.abortFirst, ready] at turn
      exact .ofTurn turn
  next alive =>
    obtain ⟨h, chain⟩ := Crew.resume_runFirst w r.time r.crew
    exact leads_resume w alive chain

theorem leads_requestStop (w : Workload ω τ) (r : ExecutorRun ω τ) :
    Leads w r r.requestStop := by
  simp only [requestStop]
  split
  · exact .ofTurn (.signal false none fun _ => rfl)
  · exact .ofTurn (.signal false r.stopAt id)

theorem leads_runReady (w : Workload ω τ) (n : Nat) (r : ExecutorRun ω τ) :
    Leads w r (r.runReady w n) := by
  induction n generalizing r with
  | zero => exact .refl r
  | succ n ih =>
      simp only [runReady]
      split
      · exact (leads_requestStop w r).trans (ih _)
      · split
        · exact .refl r
        · exact (leads_runFirst w r).trans (ih _)

theorem leads_work (w : Workload ω τ) (r : ExecutorRun ω τ) : Leads w r (r.work w).1 := by
  simp only [work]
  have looked := leads_look w r.grantsInARow r
  split
  · exact looked
  · exact looked.trans (leads_runReady w turnsInARow _)

/-- Moving the clock also readies the one who will request shutdown. -/
theorem leads_moveTo (w : Workload ω τ) (instant : Nat) (r : ExecutorRun ω τ) :
    Leads w r (r.moveTo instant) := .ofTurn (.clock r instant)

theorem leads_round (w : Workload ω τ) (r : ExecutorRun ω τ) : Leads w r (r.round w) := by
  have worked := leads_work w r
  simp only [round]
  split
  · exact worked
  · simp only [advance]
    split
    · exact worked
    · exact worked.trans (leads_moveTo w _ _)

theorem leads_rounds (w : Workload ω τ) (n : Nat) (r : ExecutorRun ω τ) :
    Leads w r (rounds w n r) := by
  induction n generalizing r with
  | zero => exact .refl r
  | succ n ih =>
      simp only [rounds]
      split
      · exact .refl r
      · exact (leads_round w r).trans (ih _)

/-- The run of an executor is one of its schedules. -/
theorem leads_execute (w : Workload ω τ) (s : ExecutorSettings) (shutdown : Shutdown)
    (world : ω) : Leads w (begin w s shutdown world) (execute w s shutdown world) :=
  leads_rounds w _ _

/-! ## Turns are moves of the crew -/

/-- Whatever turn is taken, the crew makes moves with the same history. -/
theorem Turn.moves {w : Workload ω τ} {r r' : ExecutorRun ω τ} {g : History}
    (turn : Turn w r g r') : Chain (Crew.Move w) r.crew g r'.crew := by
  cases turn with
  | @tick ticker deadline stage running early due =>
      have joined := Chain.single (Crew.Move.joinAll w r.crew)
      apply joined.trans
      simp only [takeTick]
      have same : r.crew.join.pool = r.crew.pool := rfl
      cases full : r.crew.pool.isFull with
      | true => simpa [same, full] using Chain.single (.drop r.time (same ▸ full))
      | false => simpa [same, full] using Chain.single (.start r.time (same ▸ full))
  | leased | signal | finish => exact .nil _
  | close | hasten => exact .single (.close _)
  | lease stage running more free =>
      have joined := Crew.Move.joinAll w r.crew
      exact (Chain.single joined).trans (.single (Crew.Move.start r.time free))
  | leaseHanded stage running more handed =>
      have joined := Crew.Move.joinAll w r.crew
      exact (Chain.single joined).trans (.single (Crew.Move.startHanded r.time handed))
  | want stage running full => exact .single (.want full)
  | interrupt =>
      have closed := Crew.Move.close (w := w) r.crew
      exact (Chain.single closed).trans (.single (Crew.Move.unwant r.crew))
  | count ended => exact .single (.join ended)
  | giveUp => exact .single (.rouse _)
  | reorder perm => exact .single (.reorder perm)
  | resume alive resume => exact .single (.resume resume)
  | abort stage ready => exact .single (.abort r.time ready)
  | clock instant => exact .single (.wake _ _)

/-- A schedule is a chain of moves of the crew. -/
theorem Schedule.moves {w : Workload ω τ} {r r' : ExecutorRun ω τ} {h : History}
    (run : Schedule w r h r') : Chain (Crew.Move w) r.crew h r'.crew :=
  run.map (f := crew) Turn.moves

end ExecutorRun

end LoadHarness
