import LoadHarness.Proofs.Executor.Schedule

/-!
# Punctual runs

A run is punctual if its timer is never late: the clock does not go past an instant in which a
timer of the executor is due, however long the iterations take. The executor's own run is
punctual, since its clock only moves to the next instant in which anything is due.
-/

namespace LoadHarness

namespace ExecutorRun

variable {ω τ : Type} {w : Workload ω τ} {r r' : ExecutorRun ω τ} {h g : History}
  {s : ExecutorSettings} {world : ω}

/-- A turn that comes in time: shutdown has not been requested, and the clock does not go past an
instant in which a timer of the executor is due. -/
structure PunctualTurn (w : Workload ω τ) (r : ExecutorRun ω τ) (g : History)
    (r' : ExecutorRun ω τ) : Prop where
  turn : Turn w r g r'
  running : r'.stopped = false
  inTime : ∀ instant, r.nextTimer? = some instant → r'.now ≤ max r.now instant

/-- A schedule whose timer is never late and that nobody shuts down. -/
abbrev Punctual (w : Workload ω τ) : ExecutorRun ω τ → History → ExecutorRun ω τ → Prop :=
  Chain (PunctualTurn w)

theorem Punctual.schedule (run : Punctual w r h r') : Schedule w r h r' :=
  run.map (f := id) fun step => .single step.turn

/-! ## What no turn takes back -/

/-- The clock never goes back. -/
theorem Turn.now_le (turn : Turn w r g r') : r.now ≤ r'.now := by
  cases turn with
  | clock instant => exact Nat.le_max_left _ _
  | _ => exact Nat.le_refl _

/-- A request for shutdown is never taken back. -/
theorem Turn.stopped (turn : Turn w r g r') (stopped : r.stopped = true) : r'.stopped = true := by
  cases turn with
  | signal stopReady stopAt kept => exact kept stopped
  | _ => exact stopped

theorem Schedule.now_le (run : Schedule w r h r') : r.now ≤ r'.now := by
  induction run with
  | nil => exact Nat.le_refl _
  | snoc _ last ih => exact Nat.le_trans ih last.now_le

/-- Turns at which the clock stands still are in time. -/
theorem Schedule.punctual (run : Schedule w r h r') (still : r'.now = r.now)
    (running : r'.stopped = false) : Punctual w r h r' := by
  induction run with
  | nil => exact .nil _
  | @snoc middle _ _ _ chain last ih =>
      have before : middle.now = r.now :=
        Nat.le_antisymm (still ▸ last.now_le) (Schedule.now_le chain)
      have open_ : middle.stopped = false :=
        Bool.eq_false_iff.mpr fun stopped =>
          Bool.eq_false_iff.mp running (last.stopped stopped)
      refine .snoc (ih before open_) ⟨last, running, fun instant _ => ?_⟩
      rw [still, before]
      exact Nat.le_max_left _ _

/-! ## Work takes no time -/

/-- The clock, and what is known of a request for shutdown. -/
def outside (r : ExecutorRun ω τ) : Nat × Bool × Option Nat × Bool :=
  (r.now, r.stopped, r.stopAt, r.stopReady)

theorem settle_outside (r : ExecutorRun ω τ) : r.settle.outside = r.outside := by
  simp only [settle]
  split
  · rfl
  · split
    · split <;> rfl
    · rfl

theorem drain_outside (r : ExecutorRun ω τ) : r.drain.outside = r.outside :=
  settle_outside _

theorem settleOrDrain_outside (r : ExecutorRun ω τ) : r.settleOrDrain.outside = r.outside := by
  have settled := settle_outside { r with stage := .settling }
  simp only [settleOrDrain]
  split
  · split
    · exact (drain_outside _).trans settled
    · exact settled
  · exact settled

theorem look_outside (w : Workload ω τ) (grants : Nat) (r : ExecutorRun ω τ) :
    (r.look w grants).outside = r.outside := by
  induction grants generalizing r with
  | zero => rfl
  | succ grants ih =>
      simp only [look]
      split
      next =>
        split
        · exact drain_outside r
        · split
          · exact ih _
          · rfl
      next =>
        split
        · exact settleOrDrain_outside r
        · split
          · exact settleOrDrain_outside _
          · split
            · exact ih _
            · split
              · rfl
              · exact ih _
      next => exact settleOrDrain_outside r
      next => exact settle_outside r
      next => exact settle_outside r
      next => rfl

theorem runFirst_outside (w : Workload ω τ) (r : ExecutorRun ω τ) :
    (r.runFirst w).outside = r.outside := by
  simp only [runFirst]
  split <;> rfl

/-- Turns of iterations take no time while nobody is about to request shutdown. -/
theorem runReady_outside (w : Workload ω τ) (n : Nat) (r : ExecutorRun ω τ)
    (calm : r.stopReady = false) : (r.runReady w n).outside = r.outside := by
  induction n generalizing r with
  | zero => rfl
  | succ n ih =>
      have first := runFirst_outside w r
      have still : (r.runFirst w).stopReady = false :=
        (congrArg (·.2.2.2) first).trans calm
      simp only [runReady, calm, Bool.false_eq_true, if_false]
      split
      · rfl
      · exact (ih _ still).trans first

theorem work_outside (w : Workload ω τ) (r : ExecutorRun ω τ) (calm : r.stopReady = false) :
    (r.work w).1.outside = r.outside := by
  have looked := look_outside w r.grantsInARow r
  have still : (r.look w r.grantsInARow).stopReady = false :=
    (congrArg (·.2.2.2) looked).trans calm
  simp only [work]
  split
  · exact looked
  · exact (runReady_outside w _ _ still).trans looked

/-! ## The executor's own run is punctual -/

/-- Nobody will ever request shutdown. -/
structure Undisturbed (r : ExecutorRun ω τ) : Prop where
  stopped : r.stopped = false
  stopAt : r.stopAt = none
  stopReady : r.stopReady = false

theorem Undisturbed.of_outside (calm : Undisturbed r) (same : r'.outside = r.outside) :
    Undisturbed r' := by
  simp only [outside, Prod.mk.injEq] at same
  exact ⟨same.2.1.trans calm.stopped, same.2.2.1.trans calm.stopAt,
    same.2.2.2.trans calm.stopReady⟩

theorem Undisturbed.moveTo (calm : Undisturbed r) (instant : Nat) :
    Undisturbed (r.moveTo instant) := by
  refine ⟨calm.stopped, calm.stopAt, ?_⟩
  simp [ExecutorRun.moveTo, calm.stopReady, calm.stopAt]

/-- The clock goes to no later instant than the next timer of the executor. -/
theorem nextInstant_le {instant timer : Nat} (next : r.nextInstant? = some instant)
    (due : r.nextTimer? = some timer) : instant ≤ timer := by
  refine (List.min?_eq_some_iff.mp next).2 timer ?_
  simp [due]

/-- Some punctual schedule leads from one run to another, which nobody will disturb either. -/
def LeadsPunctually (w : Workload ω τ) (r r' : ExecutorRun ω τ) : Prop :=
  (∃ h, Punctual w r h r') ∧ Undisturbed r'

theorem leadsPunctually_work (calm : Undisturbed r) : LeadsPunctually w r (r.work w).1 := by
  obtain ⟨h, run⟩ := leads_work w r
  have same := work_outside w r calm.stopReady
  have after := calm.of_outside same
  exact ⟨⟨h, run.punctual (congrArg (·.1) same) after.stopped⟩, after⟩

theorem LeadsPunctually.advance (leads : LeadsPunctually w r r') :
    LeadsPunctually w r r'.advance := by
  obtain ⟨⟨h, run⟩, calm⟩ := leads
  simp only [ExecutorRun.advance]
  split
  · exact ⟨⟨h, run⟩, calm⟩
  · next instant next =>
    have moved := calm.moveTo instant
    refine ⟨⟨_, .snoc run ⟨.clock r' instant, moved.stopped, fun timer due => ?_⟩⟩, moved⟩
    have early := nextInstant_le next due
    exact Nat.max_le.mpr ⟨Nat.le_max_left _ _, Nat.le_trans early (Nat.le_max_right _ _)⟩

theorem leadsPunctually_round (calm : Undisturbed r) : LeadsPunctually w r (r.round w) := by
  have worked := leadsPunctually_work (w := w) calm
  simp only [round]
  split
  · exact worked
  · exact worked.advance

theorem leadsPunctually_rounds (w : Workload ω τ) (n : Nat) (calm : Undisturbed r) :
    LeadsPunctually w r (rounds w n r) := by
  induction n generalizing r with
  | zero => exact ⟨⟨[], .nil r⟩, calm⟩
  | succ n ih =>
      simp only [rounds]
      split
      · exact ⟨⟨[], .nil r⟩, calm⟩
      · obtain ⟨⟨h, first⟩, between⟩ := leadsPunctually_round (w := w) calm
        obtain ⟨⟨g, rest⟩, after⟩ := ih between
        exact ⟨⟨h ++ g, first.trans rest⟩, after⟩

/-- The run of an executor that is never shut down is punctual. -/
theorem execute_punctual (w : Workload ω τ) (s : ExecutorSettings) (world : ω) :
    ∃ h, Punctual w (begin w s .never world) h (execute w s .never world) :=
  (leadsPunctually_rounds w _ ⟨rfl, rfl, rfl⟩).1

end ExecutorRun

end LoadHarness
