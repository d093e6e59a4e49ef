import LoadHarness.Proofs.Executor.Schedule

/-!
# What a workload keeps

A property of the world and a property of the states in which iterations wait are kept by a
workload if no turn, no end from outside and nothing that the executor tells breaks them. Then
they hold after every schedule, whoever takes turns in whatever order.
-/

namespace LoadHarness

variable {ω τ : Type}

/-- The state in which an iteration waits. -/
def Next.state? : Next τ → Option τ
  | .wait _ state => some state
  | .waitForEver state => some state
  | .finish _ => none

/-- An iteration that ended waits in no state. -/
theorem Next.forall_finish {q : τ → Prop} {e : Ending} :
    ∀ s ∈ (finish e : Next τ).state?, q s := by
  intro s waits
  cases waits

/-- Nothing that happens to a workload breaks a property of the world and one of the states. -/
structure Workload.Keeps (w : Workload ω τ) (p : ω → Prop) (q : τ → Prop) : Prop where
  resume : ∀ now i world state, p world → (∀ s ∈ state, q s) →
    p (w.resume now i world state).1 ∧ ∀ s ∈ (w.resume now i world state).2.state?, q s
  abandon : ∀ now i world state, p world → p (w.abandon now i world state)
  notice : ∀ now world n, p world → p (w.notice now world n)

/-- The world of a crew has one property, and the states of its iterations have another. -/
structure Crew.Kept (p : ω → Prop) (q : τ → Prop) (c : Crew ω τ) : Prop where
  world : p c.world
  states : ∀ t ∈ c.tasks, ∀ s ∈ t.state, q s

namespace Workload.Keeps

open Crew (Kept Move Resume)

variable {w : Workload ω τ} {p : ω → Prop} {q : τ → Prop} {c c' : Crew ω τ} {g h : History}

theorem release (keeps : w.Keeps p q) (now : Duration) (e : Ending) (kept : Kept p q c) :
    Kept p q (c.release w now e) where
  world := by
    simp only [Crew.release]
    split <;> exact keeps.notice now c.world _ kept.world
  states := by
    rw [Crew.release_tasks]
    exact kept.states

theorem launch (keeps : w.Keeps p q) (now : Duration) (kept : Kept p q c) :
    Kept p q (c.launch w now) where
  world := keeps.notice now c.world _ kept.world
  states t mem := by
    rcases List.mem_cons.mp ((Crew.launch_tasks w now c).mem_iff.mp mem) with rfl | old
    · exact nofun
    · exact kept.states t old

/-- What holds after the turn of an iteration, whatever it does next. -/
theorem after {now : Duration} {t : Task τ} {rest : List (Task τ)} {world : ω} {next : Next τ}
    (keeps : w.Keeps p q) (ready : c.ready = t :: rest)
    (resumed : w.resume now t.id c.world t.state = (world, next)) (kept : Kept p q c) :
    p world ∧ (∀ s ∈ next.state?, q s) ∧ ∀ u ∈ c.tasks.tail, ∀ s ∈ u.state, q s := by
  have whole := Crew.tasks_of_ready ready
  have first := kept.states t (whole ▸ List.mem_cons_self)
  have turned := keeps.resume now t.id c.world t.state kept.world first
  rw [resumed] at turned
  exact ⟨turned.1, turned.2, fun u mem => kept.states u (whole ▸ List.mem_cons_of_mem t mem)⟩

/-- The turn of an iteration breaks nothing. -/
theorem turn {now : Duration} (keeps : w.Keeps p q) (turn : Resume w now c g c')
    (kept : Kept p q c) : Kept p q c' := by
  cases turn with
  | @finish t rest world e ready resumed =>
      obtain ⟨fine, -, others⟩ := keeps.after ready resumed kept
      refine keeps.release now e ⟨fine, fun u mem => others u ?_⟩
      rw [Crew.tasks, ready]
      exact mem
  | wait ready resumed | waitForEver ready resumed =>
      obtain ⟨fine, waits, others⟩ := keeps.after ready resumed kept
      refine ⟨fine, fun u mem => ?_⟩
      rcases List.mem_cons.mp ((Crew.sleep_tasks ready _ _ _).mem_iff.mp mem) with rfl | old
      · exact waits
      · exact others u old
  | goOn ready resumed past =>
      obtain ⟨fine, waits, others⟩ := keeps.after ready resumed kept
      refine ⟨fine, fun u mem => ?_⟩
      rcases List.mem_cons.mp mem with rfl | old
      · exact waits
      · refine others u ?_
        rw [Crew.tasks, ready]
        exact old

/-- No move breaks anything. -/
theorem move (keeps : w.Keeps p q) (move : Move w c g c') (kept : Kept p q c) :
    Kept p q c' := by
  cases move with
  | join | close | want | unwant => exact ⟨kept.world, kept.states⟩
  | drop now => exact ⟨keeps.notice now c.world _ kept.world, kept.states⟩
  | start now | startHanded now => exact keeps.launch now ⟨kept.world, kept.states⟩
  | reorder perm =>
      refine ⟨kept.world, fun t mem => kept.states t ?_⟩
      exact (perm.append_right _).mem_iff.mp mem
  | wake now =>
      exact ⟨kept.world, fun t mem => kept.states t ((Crew.wake_tasks now c).mem_iff.mp mem)⟩
  | rouse => exact ⟨kept.world, fun t mem => kept.states t ((Crew.rouse_tasks c).mem_iff.mp mem)⟩
  | resume turn => exact keeps.turn turn kept
  | @abort t rest now ready =>
      simp only [Crew.abortFirst, ready]
      refine keeps.release now .aborted ⟨?_, fun u mem => kept.states u ?_⟩
      · simp only
        split
        · exact keeps.abandon now t.id c.world _ kept.world
        · exact kept.world
      · rw [Crew.tasks, ready]
        exact List.mem_cons_of_mem t mem

/-- No chain of moves breaks anything. -/
theorem moves (keeps : w.Keeps p q) (chain : Chain (Move w) c h c') (kept : Kept p q c) :
    Kept p q c' := by
  induction chain with
  | nil => exact kept
  | snoc _ last ih => exact keeps.move last ih

/-- What a workload keeps holds after all moves of a crew that began without iterations. -/
theorem assembled {world : ω} {preAllocated size : Nat} (keeps : w.Keeps p q) (start : p world)
    (chain : Chain (Move w) (.assemble w world preAllocated size) h c) : Kept p q c :=
  keeps.moves chain ⟨keeps.notice .zero world _ start, nofun⟩

/-- What a workload keeps holds after every schedule. -/
theorem schedule {s : ExecutorSettings} {shutdown : Shutdown} {world : ω}
    {r : ExecutorRun ω τ} (keeps : w.Keeps p q) (start : p world)
    (run : ExecutorRun.Schedule w (.begin w s shutdown world) h r) : Kept p q r.crew :=
  keeps.assembled start run.moves

end Workload.Keeps

end LoadHarness
