import LoadHarness.Proofs.Executor.Progress

/-!
# Graceful stops

Whatever is in flight when an executor stops starting iterations, it comes to its end. An iteration
that ends before the limit is counted as it ended, one that is still in flight at the limit is
aborted and counted as failed, and each is counted once, although the count of those that ended is
broken off at the limit and taken up again. The executor returns in the millisecond in which the
last of them ends, or at the limit.
-/

namespace LoadHarness

/-- How an iteration may end if those that are in flight at a limit are aborted: by itself up to
the limit, from outside from the limit on. -/
def Fate.Allows (limit : Nat) (fate : Fate) (ending : Ending) : Prop :=
  match fate with
  | some (t, own) => ending = own ∧ t ≤ limit ∨ ending = .aborted ∧ limit ≤ t
  | none => ending = .aborted

namespace ExecutorRun

open Crew

variable {ω τ : Type} {w : Workload ω τ} {r r' : ExecutorRun ω τ} {h : History}
  {limit : Nat} {fate : Nat → Fate}

/-- The millisecond in which the timer ends the graceful stop if the executor starts no more
iterations from now on. -/
def graceLimit (r : ExecutorRun ω τ) : Nat := r.graceEnd.timerMillis

/-- An executor that starts no more iterations. -/
def stopping (r : ExecutorRun ω τ) : ExecutorRun ω τ := { r with stage := .draining r.graceEnd }

/-- A look that ends with a drain is followed by the rounds of an executor that stops. -/
theorem round_of_drain (looked : r.look w r.grantsInARow = r'.drain) :
    r.round w = r'.stopping.round w := by
  have same : r'.stopping.look w r'.stopping.grantsInARow = r'.drain := look_of_draining rfl
  simp only [round, work, looked, same]

/-- From such a look on, the rounds of a run are those of an executor that stops. -/
theorem rounds_of_drain (unfinished : r.isFinished = false)
    (looked : r.look w r.grantsInARow = r'.drain) (n : Nat) :
    rounds w (n + 1) r = rounds w (n + 1) r'.stopping := by
  have stopping : r'.stopping.isFinished = false := rfl
  simp only [rounds, unfinished, stopping, round_of_drain looked, Bool.false_eq_true, if_false]

/-- If shutdown has been requested when all iterations are started, no more than these go on. -/
theorem look_of_stopped (stage : r.stage = .leasing)
    (all : r.settings.iterations ≤ r.crew.started) (stopped : r.stopped = true)
    (busy : r.crew.isIdle = false) (n : Nat) : r.look w (n + 1) = r.drain := by
  have still : r.crew.join.isIdle = false := busy
  have twice : r.crew.join.join = r.crew.join := rfl
  simp only [look, stage, if_pos all, settleOrDrain, settle, drain, still, twice, stopped,
    Bool.false_eq_true, if_false, if_true]
  rfl

theorem draining_stopping (course : OnCourse w r.graceLimit fate r.now r.crew) :
    Draining w r.graceLimit fate r.stopping :=
  .waiting ⟨rfl, rfl, Duration.le_timerMillis_afterWait r.now _, course⟩

theorem EndedAt.allows {now : Nat} {x : Nat × Ending} (ended : EndedAt limit fate now x)
    (early : now ≤ limit) : (fate x.1).Allows limit x.2 := by
  rcases ended with same | ⟨aborted, -, late⟩
  · rw [same]
    exact .inl ⟨rfl, early⟩
  · cases same : fate x.1 with
    | none => exact aborted
    | some own => exact .inr ⟨aborted, late _ _ same⟩

namespace Drained

variable (drained : Drained w limit fate r h r')

include drained

/-- A drain that is over is settled. -/
theorem settled (finished : r'.isFinished = true) : r'.now ≤ limit ∧ Emptied r' := by
  have stage := isFinished_iff.mp finished
  cases drained.drain with
  | waiting waits => cases waits.stage.symm.trans stage
  | aborting aborts => cases aborts.stage.symm.trans stage
  | settled _ early emptied => exact ⟨early, emptied⟩

/-- Once nobody is in flight everyone has ended. -/
theorem ends (emptied : Emptied r') :
    ((History.endings h).map (·.1)).Perm r.crew.running := by
  simpa [running, tasks, emptied.ready, emptied.sleeping] using drained.departs.places

/-- Once every end is counted the tally tells how. -/
theorem tally (emptied : Emptied r') :
    r'.crew.tally =
      ⟨r.crew.due.completed + History.endedBy (· = .completed) h,
        r.crew.due.failed + History.endedBy (· ≠ .completed) h⟩ := by
  have due := drained.departs.due
  rw [Crew.due, emptied.counted, List.foldl_nil, History.foldl_record] at due
  simpa [History.endedBy] using due

/-- The clock has not gone on after the last end. -/
theorem isLeast (emptied : Emptied r') :
    IsLeast {m | r.now ≤ m ∧
      (limit ≤ m ∨ ∀ i ∈ r.crew.running, ∃ t e, fate i = some (t, e) ∧ t ≤ m)} r'.now := by
  refine ⟨⟨drained.begun, ?_⟩, fun m bound => drained.inTime m bound.1 bound.2⟩
  rcases Nat.lt_or_ge r'.now limit with before | past
  · refine .inr fun i mem => ?_
    obtain ⟨x, ended, rfl⟩ := List.mem_map.mp ((drained.ends emptied).mem_iff.mpr mem)
    obtain ⟨now, le, same | ⟨-, late, -⟩⟩ := drained.endings x ended
    · exact ⟨now, x.2, same, le⟩
    · omega
  · exact .inl past

end Drained

/-- An executor that starts no more iterations, with whatever in flight, returns. Whoever takes
turns in whatever order, if nothing takes time but waiting: then nobody is left; each iteration
that was in flight ended once, as it was meant to if that came before the limit, and aborted if
it would have gone on; all of these ends, and those that had not been counted before, are counted
once, as completed or failed; and the clock shows the millisecond of the last end, or that of the
limit if it is earlier. An executor whose look leads to this goes on in just these rounds. -/
theorem graceful_stop (w : Workload ω τ) (r : ExecutorRun ω τ) (fate : Nat → Fate)
    (course : OnCourse w r.graceLimit fate r.now r.crew) :
    (∃ n h, Prompt w r.stopping h (rounds w n r.stopping) ∧
      (rounds w n r.stopping).isFinished = true) ∧
    (∀ h r', Prompt w r.stopping h r' → r'.isFinished = true →
      r'.crew.inFlight = 0 ∧ r'.crew.ended = [] ∧
      ((History.endings h).map (·.1)).Perm r.crew.running ∧
      (∀ x ∈ History.endings h, (fate x.1).Allows r.graceLimit x.2) ∧
      r'.crew.tally =
        ⟨r.crew.due.completed + History.endedBy (· = .completed) h,
          r.crew.due.failed + History.endedBy (· ≠ .completed) h⟩ ∧
      IsLeast {m | r.now ≤ m ∧
        (r.graceLimit ≤ m ∨ ∀ i ∈ r.crew.running, ∃ t e, fate i = some (t, e) ∧ t ≤ m)}
        r'.now) ∧
    ∀ before : ExecutorRun ω τ, before.isFinished = false →
      before.look w before.grantsInARow = r.drain →
      ∀ n, rounds w (n + 1) before = rounds w (n + 1) r.stopping := by
  have drain := draining_stopping course
  refine ⟨?_, ?_, fun before unfinished looked => rounds_of_drain unfinished looked⟩
  · obtain ⟨n, finished⟩ := drain.returns
    obtain ⟨h, run⟩ := prompt_rounds n drain
    exact ⟨n, h, run, finished⟩
  · intro h r' run finished
    have drained := run.drained drain
    obtain ⟨early, emptied⟩ := drained.settled finished
    refine ⟨?_, emptied.counted, drained.ends emptied, fun x mem => ?_, drained.tally emptied,
      drained.isLeast emptied⟩
    · simp [inFlight, emptied.ready, emptied.sleeping]
    · obtain ⟨now, le, ended⟩ := drained.endings x mem
      exact ended.allows (Nat.le_trans le early)

/-! ## Iterations with any fates -/

/-- Iterations that are meant to end in certain milliseconds and in certain ways. -/
def meant (fate : Nat → Fate) : Workload Unit Unit where
  resume now i _ _ := ((), match fate i with
    | none => .waitForEver ()
    | some (t, e) =>
      if t ≤ now.millis then .finish e else .wait (.ofMillis (t - now.millis)) ())
  abandon _ _ _ _ := ()
  notice _ _ _ := ()
  waits := 1

/-- A wait ends when it is meant to, or before if that is in more than thirty years. -/
theorem timerMillis_afterWait_ofMillis (now d : Nat) :
    ((Duration.ofMillis now).afterWait (.ofMillis d)).timerMillis =
      now + min d (86400 * 365 * 30 * 1000) := by
  have nanos : ((Duration.ofMillis now).afterWait (.ofMillis d)).nanos =
      now * 1000000 + min (d * 1000000) (86400 * 365 * 30 * 1000000000) := rfl
  simp only [Duration.timerMillis, nanos, Duration.nanosPerMilli]
  omega

/-- Each of them comes to its fate. -/
theorem fated_meant (fate : Nat → Fate) (limit i : Nat) {instant : Nat}
    (later : (fate i).NotBefore instant) (state : Option Unit) :
    ∃ n, Fated (meant fate) limit i n instant state (fate i) := by
  cases same : fate i with
  | none =>
      have acts (world : Unit) :
          ((meant fate).resume (.ofMillis instant) i world state).2 = .waitForEver () := by
        simp only [meant, same]
      exact ⟨1, .waitForEver acts⟩
  | some own =>
      obtain ⟨t, e⟩ := own
      have le := later t e same
      -- every wait brings the end nearer
      clear later
      generalize distance : t - instant = d
      induction d using Nat.strongRecOn generalizing instant state with
      | ind d ih =>
          rcases Nat.lt_or_eq_of_le le with ahead | rfl
          · have further := timerMillis_afterWait_ofMillis instant (t - instant)
            generalize wake : ((Duration.ofMillis instant).afterWait
              (.ofMillis (t - instant))).timerMillis = k at further
            obtain ⟨n, fated⟩ := ih (t - k) (by omega) (some ()) (by omega) rfl
            have acts (world : Unit) :
                ((meant fate).resume (.ofMillis instant) i world state).2 =
                  .wait (.ofMillis (t - instant)) () := by
              simp only [meant, same, Duration.millis_ofMillis, if_neg (Nat.not_le.mpr ahead)]
            exact ⟨n + 1, .wait acts (wake ▸ fated)⟩
          · refine ⟨1, .finish fun world => ?_⟩
            simp only [meant, same, Duration.millis_ofMillis, Nat.le_refl, if_true]

theorem onCourse_meant {c : Crew Unit Unit} {now : Nat} (fate : Nat → Fate) (limit : Nat)
    (awake : c.sleeping = []) (later : ∀ t ∈ c.ready, (fate t.id).NotBefore now) :
    OnCourse (meant fate) limit fate now c where
  ready t mem := fated_meant fate limit t.id (later t mem) t.state
  waking s mem := by simp [awake] at mem
  asleep s mem := by simp [awake] at mem

/-- One iteration ends in time, one fails in time, one crashes, one would end too late, and one
would never end. -/
def mixedFates : Nat → Fate
  | 0 => some (5, .completed)
  | 1 => some (7, .failed)
  | 2 => some (3, .crashed)
  | 3 => some (25, .completed)
  | _ => none

def fiveAtOnce : ExecutorSettings :=
  { ExecutorSettings.defaults with
    kind := .fixedIterations
    iterations := 5
    workers := 5
    gracefulStop := .ofMillis 10 }

/-- An executor that has started all five of them when shutdown is requested. -/
def fiveStarted : ExecutorRun Unit Unit :=
  { (begin (meant mixedFates) fiveAtOnce .never ()).look (meant mixedFates) 5 with stopped := true }

/-- All five are in flight; those that go on after ten milliseconds are aborted. -/
theorem fiveStarted_running :
    fiveStarted.now = 0 ∧ fiveStarted.graceLimit = 10 ∧
      fiveStarted.crew.running = [0, 1, 2, 3, 4] ∧ fiveStarted.crew.due = .empty := by
  decide +kernel

theorem onCourse_fiveStarted : OnCourse (meant mixedFates) fiveStarted.graceLimit mixedFates
    fiveStarted.now fiveStarted.crew := by
  refine onCourse_meant mixedFates _ rfl fun t _ own e _ => ?_
  rw [fiveStarted_running.1]
  exact Nat.zero_le own

theorem graceful_stop_fiveStarted :
    ∃ n h, Prompt (meant mixedFates) fiveStarted.stopping h
        (rounds (meant mixedFates) n fiveStarted) ∧
      (rounds (meant mixedFates) n fiveStarted).isFinished = true ∧
      ((History.endings h).map (·.1)).Perm [0, 1, 2, 3, 4] ∧
      (∀ e, (2, e) ∈ History.endings h → e = .crashed) ∧
      (∀ e, (3, e) ∈ History.endings h → e = .aborted) ∧
      (rounds (meant mixedFates) n fiveStarted).crew.tally =
        ⟨History.endedBy (· = .completed) h, History.endedBy (· ≠ .completed) h⟩ ∧
      (rounds (meant mixedFates) n fiveStarted).now = 10 := by
  obtain ⟨now, limit, running, due⟩ := fiveStarted_running
  obtain ⟨⟨n, h, run, finished⟩, returned, goesOn⟩ :=
    graceful_stop (meant mixedFates) fiveStarted mixedFates onCourse_fiveStarted
  have looked : fiveStarted.look (meant mixedFates) fiveStarted.grantsInARow =
      fiveStarted.drain :=
    look_of_stopped rfl (by decide) rfl rfl _
  have same : rounds (meant mixedFates) n fiveStarted =
      rounds (meant mixedFates) n fiveStarted.stopping := by
    cases n with
    | zero => exact absurd finished (by decide)
    | succ n => exact goesOn fiveStarted rfl looked n
  rw [← same] at run finished
  obtain ⟨-, -, ends, fates, tally, ⟨-, last⟩, least⟩ := returned h _ run finished
  rw [limit] at fates last least
  rw [running] at ends last least
  refine ⟨n, h, run, finished, ends, fun e mem => ?_, fun e mem => ?_, ?_, Nat.le_antisymm ?_ ?_⟩
  · rcases fates _ mem with ⟨own, -⟩ | ⟨-, late⟩
    · exact own
    · exact absurd late (by decide)
  · rcases fates _ mem with ⟨-, early⟩ | ⟨aborted, -⟩
    · exact absurd early (by decide)
    · exact aborted
  · rw [tally, due]
    simp [Tally.empty]
  · exact least ⟨now ▸ Nat.zero_le 10, .inl (Nat.le_refl 10)⟩
  · rcases last with past | all
    · exact past
    · obtain ⟨t, e, never, -⟩ := all 4 (by decide)
      cases never

end ExecutorRun

end LoadHarness
