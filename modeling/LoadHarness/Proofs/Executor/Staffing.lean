import LoadHarness.Proofs.Executor.Schedule

/-!
# One worker for each iteration

Every iteration in flight has a worker of its own, and one more worker is taken while it is being
handed to a waiting executor. So no more workers are taken than there are, and whoever gives a
worker back has taken it before. This holds whatever the iterations do and whoever takes turns.
-/

namespace LoadHarness

namespace Crew

variable {ω τ : Type} {w : Workload ω τ} {c c' : Crew ω τ} {h g : History} {spare : Nat}

/-- The taken workers of a crew are those of its iterations, the one that is handed over, if any,
and some to spare. -/
structure Staffed (spare : Nat) (c : Crew ω τ) : Prop where
  taken : c.pool.taken = c.tasks.length + c.handed.toNat + spare
  bounded : c.pool.taken ≤ c.pool.max
  allocated : c.pool.allocated ≤ c.pool.max
  peak : c.pool.peak ≤ c.pool.max

namespace Staffed

/-- At the start no worker is taken. -/
theorem assemble (w : Workload ω τ) (world : ω) (preAllocated size : Nat) :
    Staffed 0 (Crew.assemble w world preAllocated size) where
  taken := rfl
  bounded := Nat.zero_le _
  allocated := Nat.min_le_right _ _
  peak := Nat.zero_le _

/-! ## Workers that are taken and given back -/

/-- Whoever has a turn, or is to be handed a worker, has a worker. -/
theorem taken_pos (staffed : Staffed spare c) (needed : c.tasks ≠ [] ∨ c.handed = true) :
    0 < c.pool.taken := by
  rw [staffed.taken]
  rcases needed with some_task | handed
  · have length := List.length_pos_iff.mpr some_task
    omega
  · rw [handed, Bool.toNat_true]
    omega

/-- Iterations that only go elsewhere keep their workers. -/
theorem keep (staffed : Staffed spare c) (tasks : c'.tasks.length = c.tasks.length)
    (pool : c'.pool = c.pool) (handed : c'.handed = c.handed) : Staffed spare c' where
  taken := by rw [pool, tasks, handed, staffed.taken]
  bounded := pool ▸ staffed.bounded
  allocated := pool ▸ staffed.allocated
  peak := pool ▸ staffed.peak

/-- A free worker is taken for the iteration to come. -/
theorem take (staffed : Staffed spare c) (free : c.pool.isFull = false) :
    Staffed (spare + 1) { c with pool := c.pool.take } where
  taken := congrArg (· + 1) staffed.taken
  bounded := Nat.lt_of_not_le (of_decide_eq_false free)
  allocated := staffed.allocated
  peak := staffed.peak

/-- A worker to spare is put to work. -/
theorem launch (staffed : Staffed (spare + 1) c) (now : Duration) :
    Staffed spare (c.launch w now) where
  taken := by
    have length := (launch_tasks w now c).length_eq
    have taken : (c.launch w now).pool.taken = c.pool.taken := rfl
    have handed : (c.launch w now).handed = c.handed := rfl
    rw [taken, handed, length, staffed.taken, List.length_cons]
    omega
  bounded := staffed.bounded
  allocated := Nat.max_le.mpr ⟨staffed.allocated, staffed.bounded⟩
  peak := Nat.max_le.mpr ⟨staffed.peak, staffed.bounded⟩

/-- A worker to spare is given back, or handed over. -/
theorem release (staffed : Staffed (spare + 1) c) (now : Duration) (e : Ending) :
    Staffed spare (c.release w now e) := by
  have taken := staffed.taken
  have bounded := staffed.bounded
  rw [Crew.release]
  split
  · next waiting =>
    have free : c.handed = false := by
      apply Bool.eq_false_iff.mpr
      intro handed
      simp [tell, handed] at waiting
    rw [free, Bool.toNat_false] at taken
    refine ⟨?_, bounded, staffed.allocated, staffed.peak⟩
    change c.pool.taken = c.tasks.length + 1 + spare
    omega
  · refine ⟨?_, ?_, staffed.allocated, staffed.peak⟩
    · change c.pool.taken - 1 = c.tasks.length + c.handed.toNat + spare
      omega
    · change c.pool.taken - 1 ≤ c.pool.max
      omega

/-- The first ready iteration leaves its worker to spare. -/
theorem leave (staffed : Staffed spare c) {t : Task τ} {rest : List (Task τ)}
    (ready : c.ready = t :: rest) (world : ω) :
    Staffed (spare + 1) { c with ready := rest, world } := by
  have taken := staffed.taken
  rw [tasks_of_ready ready, List.length_cons] at taken
  have left : ({ c with ready := rest, world } : Crew ω τ).tasks = c.tasks.tail := by
    rw [tasks, tasks, ready]
    rfl
  refine ⟨?_, staffed.bounded, staffed.allocated, staffed.peak⟩
  change c.pool.taken = _ + c.handed.toNat + _
  rw [left]
  omega

/-- Whoever waits no more gives back the worker that was handed over. -/
theorem unwant (staffed : Staffed spare c) : Staffed spare c.unwant := by
  have taken := staffed.taken
  have bounded := staffed.bounded
  rw [Crew.unwant]
  split
  · next handed =>
    rw [handed, Bool.toNat_true] at taken
    refine ⟨?_, ?_, staffed.allocated, staffed.peak⟩
    · change c.pool.taken - 1 = c.tasks.length + 0 + spare
      omega
    · change c.pool.taken - 1 ≤ c.pool.max
      omega
  · next free =>
    rw [Bool.eq_false_iff.mpr free] at taken
    exact ⟨taken, bounded, staffed.allocated, staffed.peak⟩

/-! ## Every move keeps the crew staffed -/

theorem resume {now : Duration} (staffed : Staffed spare c) (turn : Resume w now c g c') :
    Staffed spare c' := by
  cases turn with
  | @finish t rest world e ready resumed => exact (staffed.leave ready world).release now e
  | wait ready resumed | waitForEver ready resumed =>
      refine staffed.keep ?_ rfl rfl
      rw [(sleep_tasks ready _ _ _).length_eq, tasks_of_ready ready]
      rfl
  | goOn ready resumed past =>
      refine staffed.keep ?_ rfl rfl
      simp [tasks, ready]

theorem move (staffed : Staffed spare c) (move : Move w c g c') : Staffed spare c' := by
  cases move with
  | join | drop | close | want => exact staffed.keep rfl rfl rfl
  | start now free => exact (staffed.take free).launch now
  | startHanded now handed =>
      have to_spare : Staffed (spare + 1) { c with wanted := false, handed := false } := by
        have taken := staffed.taken
        rw [handed, Bool.toNat_true] at taken
        refine ⟨?_, staffed.bounded, staffed.allocated, staffed.peak⟩
        change c.pool.taken = c.tasks.length + 0 + (spare + 1)
        omega
      exact to_spare.launch now
  | unwant => exact staffed.unwant
  | reorder perm => exact staffed.keep (perm.append_right _).length_eq rfl rfl
  | resume turn => exact staffed.resume turn
  | abort now ready =>
      rw [abortFirst, ready]
      exact (staffed.leave ready _).release now .aborted
  | wake now => exact staffed.keep (wake_tasks _ _).length_eq rfl rfl
  | rouse => exact staffed.keep (rouse_tasks c).length_eq rfl rfl

theorem moves (staffed : Staffed spare c) (chain : Chain (Move w) c h c') : Staffed spare c' := by
  induction chain with
  | nil => exact staffed
  | snoc _ last ih => exact ih.move last

end Staffed

end Crew

namespace ExecutorRun

variable {ω τ : Type} {w : Workload ω τ} {r : ExecutorRun ω τ} {h : History}

/-- The crew of an executor is staffed at every moment of every run. -/
theorem Schedule.staffed {s : ExecutorSettings} {shutdown : Shutdown} {world : ω}
    (schedule : Schedule w (begin w s shutdown world) h r) : r.crew.Staffed 0 :=
  (Crew.Staffed.assemble w world s.poolSizes.1 s.poolSizes.2).moves schedule.moves

end ExecutorRun

end LoadHarness
