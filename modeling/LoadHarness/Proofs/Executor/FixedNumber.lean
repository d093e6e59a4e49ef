import LoadHarness.Proofs.Executor.Leases
import LoadHarness.Proofs.Executor.Punctual

/-!
# A fixed number of iterations

An executor of a fixed number of iterations has no deadline. As long as nobody requests shutdown it
starts iterations until it has started all of them, and then waits until all have ended, however
long that takes; none is dropped and none is ended from outside. So once it returns, whoever took
turns in whatever order, every iteration has been run to an end of its own.
-/

namespace LoadHarness

variable {ω τ : Type}

/-- Every iteration that ended had begun, and its own last turn ended it. -/
def Workload.OwnEnds (w : Workload ω τ) (h : History) : Prop :=
  ∀ i e begun, .ended i e begun ∈ h →
    begun = true ∧ ∃ now world state, (w.resume now i world state).2 = .finish e

namespace Workload.OwnEnds

variable {w : Workload ω τ} {h g : History}

theorem append (first : w.OwnEnds h) (second : w.OwnEnds g) : w.OwnEnds (h ++ g) := by
  intro i e begun mem
  rcases List.mem_append.mp mem with mem | mem
  · exact first i e begun mem
  · exact second i e begun mem

/-- Nothing else than a turn ends an iteration. -/
theorem resume {now : Duration} {c c' : Crew ω τ} (turn : Crew.Resume w now c g c') :
    w.OwnEnds g := by
  cases turn with
  | @finish t rest world e ready resumed =>
      intro i e' begun mem
      obtain ⟨rfl, rfl, rfl⟩ := Event.ended.inj (List.mem_singleton.mp mem)
      exact ⟨rfl, now, c.world, t.state, congrArg Prod.snd resumed⟩
  | wait | goOn | waitForEver => exact nofun

end Workload.OwnEnds

namespace Crew

variable {w : Workload ω τ} {c c' : Crew ω τ} {g h : History}

theorem Resume.started_eq {now : Duration} (turn : Resume w now c g c') :
    c'.started = c.started := by
  cases turn with
  | finish => exact release_started w now _ _
  | wait | goOn | waitForEver => rfl

/-- Iterations are counted as they are started. -/
theorem Move.started_eq (move : Move w c g c') :
    c'.started = c.started + (History.starts g).length := by
  cases move with
  | start | startHanded => rfl
  | join | drop | close | want | unwant | reorder | wake | rouse => rfl
  | resume turn =>
      have none : History.starts g = [] := by cases turn <;> rfl
      rw [none, turn.started_eq]
      rfl
  | abort now ready =>
      rw [abortFirst, ready]
      exact release_started w now _ _

theorem moves_started (chain : Chain (Move w) c h c') :
    c'.started = c.started + (History.starts h).length := by
  induction chain with
  | nil => rfl
  | snoc _ last ih =>
      rw [last.started_eq, ih, History.starts_append, List.length_append, Nat.add_assoc]

end Crew

namespace ExecutorRun

variable {w : Workload ω τ} {r r' : ExecutorRun ω τ} {g h : History} {s : ExecutorSettings}
  {shutdown : Shutdown} {world : ω}

/-- What holds of a fixed number of iterations as long as nobody requests shutdown. -/
structure Unhurried (w : Workload ω τ) (s : ExecutorSettings) (r : ExecutorRun ω τ)
    (h : History) : Prop where
  settings : r.settings = s
  stage : r.stage = .leasing ∨ r.stage = .settling ∨ r.stage = .finished
  few : r.crew.started ≤ s.iterations
  all : r.stage ≠ .leasing → r.crew.started = s.iterations
  kept : .dropped ∉ h
  own : w.OwnEnds h

namespace Unhurried

theorem begin (w : Workload ω τ) (fixed : s.kind = .fixedIterations) (shutdown : Shutdown)
    (world : ω) : Unhurried w s (ExecutorRun.begin w s shutdown world) [] where
  settings := rfl
  stage := by simp only [ExecutorRun.begin, fixed, true_or]
  few := Nat.zero_le _
  all other := by simp only [ExecutorRun.begin, fixed, ne_eq, not_true_eq_false] at other
  kept := List.not_mem_nil
  own := nofun

/-- What leaves the stage and starts nothing. -/
theorem keep (unhurried : Unhurried w s r h) (settings : r'.settings = r.settings)
    (stage : r'.stage = r.stage) (started : r'.crew.started = r.crew.started)
    (kept : .dropped ∉ g) (own : w.OwnEnds g) : Unhurried w s r' (h ++ g) where
  settings := settings.trans unhurried.settings
  stage := stage ▸ unhurried.stage
  few := started ▸ unhurried.few
  all other := started ▸ unhurried.all (stage ▸ other)
  kept := by simpa only [List.mem_append, not_or] using ⟨unhurried.kept, kept⟩
  own := unhurried.own.append own

/-- A start of one more. -/
theorem start (unhurried : Unhurried w s r h) (stage : r.stage = .leasing)
    (more : r.crew.started < r.settings.iterations) (settings : r'.settings = r.settings)
    (stage' : r'.stage = r.stage) (started : r'.crew.started = r.crew.started + 1) (i : Nat) :
    Unhurried w s r' (h ++ [.started i]) where
  settings := settings.trans unhurried.settings
  stage := .inl (stage'.trans stage)
  few := by
    rw [started, ← unhurried.settings]
    exact more
  all other := absurd (stage'.trans stage) other
  kept := by simpa using unhurried.kept
  own := unhurried.own.append (by simp [Workload.OwnEnds])

/-- Only a request for shutdown can hurry the executor. -/
theorem turn (unhurried : Unhurried w s r h) (turn : Turn w r g r')
    (running : r'.stopped = false) : Unhurried w s r' (h ++ g) := by
  have stages := unhurried.stage
  cases turn with
  | tick stage | close stage | giveUp stage | abort stage => simp [stage] at stages
  | interrupt stage stopped | hasten stage stopped => exact nomatch running.symm.trans stopped
  | lease stage _ more | leaseHanded stage _ more =>
      refine unhurried.start stage more ?_ ?_ ?_ _ <;> rfl
  | leased stage all =>
      have all : s.iterations ≤ r.crew.started := unhurried.settings ▸ all
      exact
        { unhurried.keep rfl rfl rfl List.not_mem_nil nofun with
          settings := unhurried.settings
          stage := .inr (.inl rfl)
          few := unhurried.few
          all := fun _ => Nat.le_antisymm unhurried.few all }
  | finish stage =>
      have past : r.stage ≠ .leasing := by
        intro leasing
        rw [leasing] at stage
        cases stage
      exact
        { unhurried.keep rfl rfl rfl List.not_mem_nil nofun with
          settings := unhurried.settings
          stage := .inr (.inr rfl)
          few := unhurried.few
          all := fun _ => unhurried.all past }
  | want | count | reorder | signal | clock =>
      exact unhurried.keep rfl rfl rfl List.not_mem_nil nofun
  | resume alive resume =>
      refine unhurried.keep rfl rfl resume.started_eq ?_ (.resume resume)
      obtain rfl | ⟨i, e, rfl⟩ := Resume.eq_nil_or_ended resume <;> simp

end Unhurried

theorem Schedule.unhurried (run : Schedule w (begin w s shutdown world) h r)
    (fixed : s.kind = .fixedIterations) (running : r.stopped = false) : Unhurried w s r h := by
  induction run with
  | nil => exact .begin w fixed shutdown world
  | snoc _ last ih =>
      have before := Bool.eq_false_iff.mpr (mt last.stopped (Bool.eq_false_iff.mp running))
      exact (ih before).turn last running

/-! ## What a run has done when it is over -/

/-- All iterations were run, each of them once, and the report tells how they ended. -/
structure Complete (s : ExecutorSettings) (h : History) (report : ExecutorReport) : Prop where
  starts : History.starts h = List.range s.iterations
  ends : ((History.endings h).map (·.1)).Perm (List.range s.iterations)
  started : report.started = s.iterations
  completed : report.completed = History.endedBy (· = .completed) h
  failed : report.failed = History.endedBy (· ≠ .completed) h
  total : report.completed + report.failed = s.iterations
  dropped : report.dropped = 0
  peak : report.peakWorkers ≤ min (max s.workers 1) s.iterations

theorem Schedule.complete (run : Schedule w (begin w s shutdown world) h r)
    (fixed : s.kind = .fixedIterations) (running : r.stopped = false)
    (finished : r.isFinished = true) : Complete s h r.report := by
  have unhurried := run.unhurried fixed running
  have account := run.accounted
  have tally := run.counted finished
  have started : r.crew.started = s.iterations := by
    refine unhurried.all ?_
    rw [isFinished_iff.mp finished]
    exact nofun
  have few : r.crew.pool.peak ≤ s.iterations := by
    have starts := run.marked.peak.le_starts
    rwa [account.starts, List.length_range, started] at starts
  have most : r.crew.pool.peak ≤ max s.workers 1 := by
    have size : r.crew.pool.max = s.mostLeases := run.marked.most
    rw [← mostLeases_of_iterations fixed, ← size]
    exact run.staffed.peak
  exact
    { starts := started ▸ account.starts
      ends := started ▸ run.ends finished
      started := started
      completed := congrArg Tally.completed tally
      failed := congrArg Tally.failed tally
      total := started ▸ run.total finished
      dropped := account.dropped.trans (List.count_eq_zero.mpr unhurried.kept)
      peak := Nat.le_min.mpr ⟨most, few⟩ }

end ExecutorRun

end LoadHarness
