import LoadHarness.Proofs.Executor.Punctual

/-!
# Prompt runs

A run is prompt if nothing in it takes time but waiting: the clock stands still while an iteration
is ready or the executor has something to do, and it does not go past the next instant in which
anything is due. Iterations then end when their waits add up to it, and an executor acts in the
millisecond in which it is meant to. A run in which the clock does not move is prompt, whoever
takes turns in it.
-/

namespace LoadHarness

namespace ExecutorRun

variable {ω τ : Type} {w : Workload ω τ} {r r' : ExecutorRun ω τ} {h g : History}

/-- Nobody has anything to do before the clock moves. -/
structure Resting (r : ExecutorRun ω τ) : Prop where
  running : r.isFinished = false
  ready : r.crew.ready = []
  calm : r.isEager = false
  early : ∀ timer, r.nextTimer? = some timer → r.now < timer

/-- A turn that takes no time, or a move of the clock to an instant that is not past the next one
in which anything is due. -/
structure PromptTurn (w : Workload ω τ) (r : ExecutorRun ω τ) (g : History)
    (r' : ExecutorRun ω τ) : Prop where
  turn : Turn w r g r'
  inTime : r'.now ≠ r.now → Resting r ∧ ∃ instant, r.nextInstant? = some instant ∧ r'.now ≤ instant

/-- A schedule in which nothing takes time but waiting. -/
abbrev Prompt (w : Workload ω τ) : ExecutorRun ω τ → History → ExecutorRun ω τ → Prop :=
  Chain (PromptTurn w)

theorem Prompt.schedule (run : Prompt w r h r') : Schedule w r h r' :=
  run.map (f := id) fun step => .single step.turn

/-- Turns that take no time are prompt. -/
theorem Schedule.prompt (run : Schedule w r h r') (still : r'.now = r.now) : Prompt w r h r' := by
  induction run with
  | nil => exact .nil _
  | @snoc middle _ _ _ chain last ih =>
      have before : middle.now = r.now :=
        Nat.le_antisymm (still ▸ last.now_le) (Schedule.now_le chain)
      exact .snoc (ih before) ⟨last, fun moved => absurd (still.trans before.symm) moved⟩

/-! ## Work takes no time -/

theorem look_now (w : Workload ω τ) (grants : Nat) (r : ExecutorRun ω τ) :
    (r.look w grants).now = r.now :=
  congrArg (·.1) (look_outside w grants r)

/-- The request for shutdown concerns nobody in flight. -/
theorem requestStop_frame (r : ExecutorRun ω τ) : ∃ stopAt stopped,
    r.requestStop = { r with stopReady := false, stopAt, stopped } := by
  simp only [requestStop]
  split
  · exact ⟨_, _, rfl⟩
  · exact ⟨_, _, rfl⟩

theorem runReady_now (w : Workload ω τ) (n : Nat) (r : ExecutorRun ω τ) :
    (r.runReady w n).now = r.now := by
  induction n generalizing r with
  | zero => rfl
  | succ n ih =>
      simp only [runReady]
      split
      · obtain ⟨stopAt, stopped, same⟩ := requestStop_frame r
        rw [same]
        exact ih _
      · split
        · rfl
        · exact (ih _).trans (congrArg (·.1) (runFirst_outside w r))

theorem work_now (w : Workload ω τ) (r : ExecutorRun ω τ) : (r.work w).1.now = r.now := by
  have looked := look_now w r.grantsInARow r
  simp only [work]
  split
  · exact looked
  · exact (runReady_now w _ _).trans looked

/-- The work of a round is prompt. -/
theorem prompt_work (w : Workload ω τ) (r : ExecutorRun ω τ) :
    ∃ h, Prompt w r h (r.work w).1 := by
  obtain ⟨h, run⟩ := leads_work w r
  exact ⟨h, run.prompt (work_now w r)⟩

/-- So is a move of the clock while everyone rests. -/
theorem prompt_advance (w : Workload ω τ) (resting : Resting r) :
    ∃ h, Prompt w r h r.advance := by
  simp only [advance]
  split
  · exact ⟨[], .nil r⟩
  · next instant next =>
    refine ⟨[], .single ⟨.clock r instant, fun moved => ⟨resting, instant, next, ?_⟩⟩⟩
    have now : (r.moveTo instant).now = max r.now instant := rfl
    omega

end ExecutorRun

end LoadHarness
