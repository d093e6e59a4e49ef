import LoadHarness.Proofs.Executor.Arrivals

/-!
# Runs that come to an end

An executor of a constant rate can always come to its end in time, whatever its iterations do: it
takes its ticks up to the deadline, and those of its iterations that have not ended by the end of
the graceful stop are ended from outside. So what is said of every punctual run that is over is
said of some run, for all settings and workloads.
-/

namespace LoadHarness

theorem ExecutorSettings.tickPeriod_pos (s : ExecutorSettings) : 0 < s.tickPeriod.nanos := by
  have least : 1 ≤ (pacingPeriod s.rate s.timeUnit).nanos := Nat.le_max_right _ _
  exact Nat.lt_min.mpr ⟨least, by decide⟩

namespace Crew

variable {ω τ : Type} {w : Workload ω τ} {c : Crew ω τ}

@[simp] theorem release_ready (now : Duration) (e : Ending) :
    (c.release w now e).ready = c.ready := by
  simp only [release]
  split <;> rfl

@[simp] theorem release_sleeping (now : Duration) (e : Ending) :
    (c.release w now e).sleeping = c.sleeping := by
  simp only [release]
  split <;> rfl

end Crew

namespace ExecutorRun

variable {ω τ : Type} {w : Workload ω τ} {r r' : ExecutorRun ω τ} {g : History}
  {s : ExecutorSettings} {ticker : Ticker} {deadline : Duration}

/-- Some schedule whose timer is never late leads to the end of a run. -/
def Ends (w : Workload ω τ) (r : ExecutorRun ω τ) : Prop :=
  ∃ h r', Punctual w r h r' ∧ r'.isFinished = true

namespace Ends

theorem of_turn (turn : PunctualTurn w r g r') (ends : Ends w r') : Ends w r := by
  obtain ⟨h, last, run, finished⟩ := ends
  exact ⟨g ++ h, last, (Chain.single turn).trans run, finished⟩

/-- A turn of an executor that nobody shuts down is in time if it takes no time. -/
theorem of_still (turn : Turn w r g r') (running : r'.stopped = false) (still : r'.now = r.now)
    (ends : Ends w r') : Ends w r :=
  of_turn ⟨turn, running, fun _ _ => still ▸ Nat.le_max_left _ _⟩ ends

/-- The clock may go to the next timer of the executor. -/
theorem of_clock {instant : Nat} (running : r.stopped = false)
    (due : r.nextTimer? = some instant) (ends : Ends w (r.moveTo instant)) : Ends w r := by
  refine of_turn ⟨.clock r instant, running, fun timer next => ?_⟩ ends
  obtain rfl := Option.some.inj (due.symm.trans next)
  exact Nat.le_refl _

/-- Once nobody is in flight any more the ends are counted and the run is over. -/
theorem of_idle (stage : r.stage.isWaiting = true) (running : r.stopped = false)
    (idle : r.crew.isIdle = true) : Ends w r := by
  refine of_still (.count (List.append_nil r.crew.ended).symm) running rfl ?_
  refine of_still (.finish stage idle rfl) running rfl ?_
  exact ⟨[], _, .nil _, rfl⟩

/-- Iterations that are ready for their end are ended one after the other. -/
theorem of_aborting (stage : r.stage = .aborting) (running : r.stopped = false)
    (roused : r.crew.sleeping = []) : Ends w r := by
  generalize ready : r.crew.ready = tasks
  induction tasks generalizing r with
  | nil =>
      refine of_idle (by rw [stage]; rfl) running ?_
      rw [Crew.isIdle, ready, roused]
      rfl
  | cons t rest ih =>
      refine of_still (.abort stage ready) running rfl (ih stage running ?_ ?_)
      · simpa only [Crew.abortFirst, ready, Crew.release_sleeping] using roused
      · simp only [Crew.abortFirst, ready, Crew.release_ready]

/-- At the end of the graceful stop the executor ends its iterations. -/
theorem of_draining (stage : r.stage = .draining deadline) (running : r.stopped = false) :
    Ends w r := by
  have due : r.nextTimer? = some deadline.timerMillis := by rw [nextTimer?, stage]
  refine of_clock running due (of_still (.giveUp stage (Nat.le_max_right _ _)) running rfl ?_)
  exact of_aborting rfl running rfl

/-- At its deadline the executor starts no more iterations. -/
theorem of_closing (stage : r.stage = .arriving ticker deadline) (running : r.stopped = false)
    (past : deadline.timerMillis ≤ r.now) : Ends w r :=
  of_still (.close stage (.inr past)) running rfl (of_draining rfl running)

/-- A tick takes at least a nanosecond, so finitely many are delivered before the deadline. -/
theorem tick_lt {n : Nat} (delivers : s.Delivers n) :
    n < s.duration.timerMillis * Duration.nanosPerMilli := by
  have grid : n ≤ (s.tickInstant n).nanos := Nat.le_mul_of_pos_right n s.tickPeriod_pos
  have delivered := Duration.timerMillis_le_iff.mp (Nat.le_refl (s.tickInstant n).timerMillis)
  calc
    n ≤ (s.tickInstant n).timerMillis * Duration.nanosPerMilli := Nat.le_trans grid delivered
    _ < s.duration.timerMillis * Duration.nanosPerMilli :=
      Nat.mul_lt_mul_of_pos_right delivers (by decide)

/-- An executor takes its ticks up to the deadline, one after the other. -/
theorem of_arriving (n : Nat)
    (stage : r.stage = .arriving ⟨s.tickPeriod, .keepGrid, s.tickInstant n⟩ s.duration)
    (running : r.stopped = false) : Ends w r := by
  -- the ticks that are left become fewer
  generalize left : s.duration.timerMillis * Duration.nanosPerMilli - n = fuel
  induction fuel using Nat.strongRecOn generalizing r n with
  | ind fuel ih =>
      have due : r.nextTimer? =
          some (min (s.tickInstant n).timerMillis s.duration.timerMillis) := by
        rw [nextTimer?, stage]
      rcases Nat.lt_or_ge r.now s.duration.timerMillis with early | past
      · rcases Nat.lt_or_ge (s.tickInstant n).timerMillis s.duration.timerMillis with
          delivers | late
        · have fewer := tick_lt delivers
          rw [Nat.min_eq_left (Nat.le_of_lt delivers)] at due
          have delivered := Duration.timerMillis_le_iff.mp
            (Nat.le_max_right r.now (s.tickInstant n).timerMillis)
          refine of_clock running due (of_still (.tick stage running
            (Nat.max_lt.mpr ⟨early, delivers⟩) (decide_eq_true delivered)) running rfl ?_)
          refine ih _ ?_ (n + 1) ?_ running rfl
          · omega
          · rw [← Ticker.tick_onGrid s n (r.moveTo (s.tickInstant n).timerMillis).time]
            rfl
        · rw [Nat.min_eq_right late] at due
          exact of_clock running due (of_closing stage running (Nat.le_max_right _ _))
      · exact of_closing stage running past

end Ends

/-- Every executor of a constant rate has a punctual run that is over. -/
theorem exists_punctual_finished (w : Workload ω τ) (s : ExecutorSettings) (world : ω)
    (kind : s.kind = .constantArrivalRate) : Ends w (begin w s .never world) := by
  refine Ends.of_arriving (s := s) 0 ?_ rfl
  simp only [begin, kind, Ticker.paced_eq]

end ExecutorRun

end LoadHarness
