import LoadHarness.Proofs.Executor.LeaseOrder

/-!
# What an executor leaves on a gauge

Whatever an executor does with its workers is an order of leases: an iteration in flight holds its
lease, and a worker that is handed over to the executor has stopped and is not given back. So at
most one lease overlaps with the end of another. Someone who shows what was told last is left with
no active worker after arrivals at a constant rate, and with one at most after a fixed number of
iterations.
-/

namespace LoadHarness

variable {ω τ : Type}

/-- The world shows the workers that it was told of last, whatever else happens. -/
structure Workload.Mirrors (w : Workload ω τ) (shown : ω → Notice) : Prop where
  resume : ∀ now i world state, shown (w.resume now i world state).1 = shown world
  abandon : ∀ now i world state, shown (w.abandon now i world state) = shown world
  workers : ∀ now world active allocated,
    shown (w.notice now world (.workers active allocated)) = .workers active allocated
  dropped : ∀ now world, shown (w.notice now world .dropped) = shown world

namespace Crew

open LeaseOrder (Reaches)

variable {w : Workload ω τ} {shown : ω → Notice} {c c' : Crew ω τ} {g h : History}
  {preAllocated size most : Nat}

/-- Who is ended from outside makes nobody wait for a worker. -/
theorem waits_of_abortFirst {now : Duration} (waits : (c.abortFirst w now).Waits) : c.Waits := by
  rw [abortFirst] at waits
  split at waits
  · exact waits
  · exact (waits_of_release waits :)

/-- The pool and what is shown of it come from an order of leases, of which those in flight are
held and one that is handed over is leaving. -/
def Ordered (preAllocated size most : Nat) (shown : ω → Notice) (c : Crew ω τ) : Prop :=
  Reaches preAllocated size most c.tasks.length c.handed.toNat c.pool (shown c.world)

namespace Ordered

theorem assemble (mirrors : w.Mirrors shown) (world : ω) :
    (Crew.assemble w world preAllocated size).Ordered preAllocated size most shown := by
  have told : shown (Crew.assemble w world preAllocated size).world =
      (Pool.ofSizes preAllocated size).openNotice := mirrors.workers _ _ _ _
  rw [Ordered, told]
  exact .opened

/-- What neither starts nor ends a lease leaves the order as it is. -/
theorem keep (ordered : c.Ordered preAllocated size most shown)
    (tasks : c'.tasks.length = c.tasks.length) (pool : c'.pool = c.pool)
    (handed : c'.handed = c.handed) (world : shown c'.world = shown c.world) :
    c'.Ordered preAllocated size most shown := by
  rw [Ordered, tasks, pool, handed, world]
  exact ordered

/-- A worker that is put to work is told at once. -/
theorem launch (mirrors : w.Mirrors shown) (now : Duration)
    (reached : Reaches preAllocated size most (c.tasks.length + 1) c.handed.toNat c.pool.lease
      c.pool.lease.leaseNotice) :
    (c.launch w now).Ordered preAllocated size most shown := by
  have told : shown (c.launch w now).world = c.pool.lease.leaseNotice := mirrors.workers _ _ _ _
  rw [Ordered, told, (launch_tasks w now c).length_eq]
  exact reached

/-- An iteration that has left its place stops, and then gives its worker back or passes it on. -/
theorem release (mirrors : w.Mirrors shown) (now : Duration) (e : Ending)
    (reached : Reaches preAllocated size most (c.tasks.length + 1) c.handed.toNat c.pool
      (shown c.world)) (few : c.handed.toNat ≤ most) :
    (c.release w now e).Ordered preAllocated size most shown := by
  have stopped := reached.stop few
  have told : shown (w.notice now c.world c.pool.stopNotice) = c.pool.stopNotice :=
    mirrors.workers _ _ _ _
  rw [← told] at stopped
  rw [Crew.release]
  split
  · next waiting =>
    have free : c.handed = false := by simpa [tell] using waiting.2
    rw [free] at stopped
    exact stopped
  · exact stopped.give

/-- The first ready iteration has left its place. -/
theorem leave (ordered : c.Ordered preAllocated size most shown) {t : Task τ}
    {rest : List (Task τ)} (ready : c.ready = t :: rest) {world : ω}
    (same : shown world = shown c.world) :
    Reaches preAllocated size most
      (({ c with ready := rest, world } : Crew ω τ).tasks.length + 1) c.handed.toNat c.pool
      (shown world) := by
  have left : ({ c with ready := rest, world } : Crew ω τ).tasks.length + 1 = c.tasks.length := by
    simp [tasks, ready]
  rw [left, same]
  exact ordered

theorem resume {now : Duration} (mirrors : w.Mirrors shown)
    (ordered : c.Ordered preAllocated size most shown) (few : c.handed.toNat ≤ most)
    (turn : Resume w now c g c') : c'.Ordered preAllocated size most shown := by
  have same {t : Task τ} {world : ω} {next : Next τ}
      (resumed : w.resume now t.id c.world t.state = (world, next)) :
      shown world = shown c.world := by
    rw [← mirrors.resume now t.id c.world t.state, resumed]
  cases turn with
  | finish ready resumed => exact release mirrors now _ (ordered.leave ready (same resumed)) few
  | wait ready resumed | waitForEver ready resumed =>
      refine ordered.keep ?_ rfl rfl (same resumed)
      rw [(sleep_tasks ready _ _ _).length_eq, tasks_of_ready ready]
      rfl
  | goOn ready resumed past =>
      refine ordered.keep ?_ rfl rfl (same resumed)
      simp [tasks, ready]

/-- Every move takes the steps of some leases, unless too many are leaving. -/
theorem move (mirrors : w.Mirrors shown) (ordered : c.Ordered preAllocated size most shown)
    (few : c.handed.toNat ≤ most) (move : Move w c g c') :
    c'.Ordered preAllocated size most shown := by
  cases move with
  | join | close | want => exact ordered.keep rfl rfl rfl rfl
  | drop now => exact ordered.keep rfl rfl rfl (mirrors.dropped now c.world)
  | start now free => exact launch mirrors now (ordered.take free)
  | startHanded now handed =>
      -- the worker is given back and taken again in one step
      rw [Ordered, handed] at ordered
      exact launch mirrors now ordered.pass
  | unwant =>
      rw [Crew.unwant]
      split
      · next handed =>
        rw [Ordered, handed] at ordered
        exact ordered.give
      · next free =>
        rw [Ordered, Bool.eq_false_iff.mpr free] at ordered
        exact ordered
  | reorder perm => exact ordered.keep (perm.append_right _).length_eq rfl rfl rfl
  | resume turn => exact ordered.resume mirrors few turn
  | @abort t rest now ready =>
      rw [abortFirst, ready]
      refine release mirrors now _ (ordered.leave ready ?_) few
      cases t.state with
      | none => rfl
      | some state => exact mirrors.abandon now t.id c.world state
  | wake now => exact ordered.keep (wake_tasks now c).length_eq rfl rfl rfl
  | rouse => exact ordered.keep (rouse_tasks c).length_eq rfl rfl rfl

/-- One worker at a time is handed over, so every chain of moves is an order of leases in which at
most one other lease is leaving when a worker stops. -/
theorem assembled (mirrors : w.Mirrors shown) {world : ω}
    (chain : Chain (Move w) (Crew.assemble w world preAllocated size) h c) :
    c.Ordered preAllocated size 1 shown := by
  induction chain with
  | nil => exact assemble mirrors world
  | snoc _ last ih => exact ih.move mirrors (Bool.toNat_le _) last

end Ordered

end Crew

namespace ExecutorRun

variable {w : Workload ω τ} {shown : ω → Notice} {r r' : ExecutorRun ω τ} {h g : History}
  {s : ExecutorSettings} {shutdown : Shutdown} {world : ω}

/-- An executor that waits for no worker is handed none, and no lease overlaps with the end of
another. -/
structure Apart (s : ExecutorSettings) (shown : ω → Notice) (r : ExecutorRun ω τ) : Prop where
  stage : r.stage ≠ .leasing
  free : ¬ r.crew.Waits
  ordered : r.crew.Ordered s.poolSizes.1 s.poolSizes.2 0 shown

namespace Apart

theorem few (apart : Apart s shown r) : r.crew.handed.toNat ≤ 0 := by
  have free : r.crew.handed = false := Bool.eq_false_iff.mpr fun handed => apart.free (.inr handed)
  exact Nat.le_of_eq (congrArg Bool.toNat free)

/-- A turn that is a move of the crew. -/
theorem move (mirrors : w.Mirrors shown) (apart : Apart s shown r) (stage : r'.stage ≠ .leasing)
    (free : r'.crew.Waits → r.crew.Waits) (move : Crew.Move w r.crew g r'.crew) :
    Apart s shown r' :=
  ⟨stage, mt free apart.free, apart.ordered.move mirrors apart.few move⟩

theorem turn (mirrors : w.Mirrors shown) (apart : Apart s shown r) (turn : Turn w r g r') :
    Apart s shown r' := by
  cases turn with
  | tick stage =>
      have joined := apart.ordered.move mirrors apart.few (.joinAll w r.crew)
      refine ⟨by simp [takeTick], ?_, ?_⟩ <;> simp only [takeTick] <;> split
      · exact apart.free
      · exact apart.free
      · next full => exact joined.move mirrors apart.few (.drop r.time full)
      · next full =>
        have free := Bool.eq_false_iff.mpr full
        exact joined.move mirrors apart.few (.start r.time free)
  | lease stage | leaseHanded stage | want stage | leased stage | interrupt stage =>
      exact absurd stage apart.stage
  | close | hasten | finish => exact ⟨by simp, apart.free, apart.ordered⟩
  | giveUp => exact apart.move mirrors (by simp [abort]) id (.rouse r.crew)
  | count ended => exact apart.move mirrors apart.stage id (.join ended)
  | reorder perm => exact apart.move mirrors apart.stage id (.reorder perm)
  | resume alive turn =>
      exact apart.move mirrors apart.stage (Crew.waits_of_resume turn) (.resume turn)
  | abort stage ready =>
      exact apart.move mirrors apart.stage Crew.waits_of_abortFirst (.abort r.time ready)
  | signal => exact ⟨apart.stage, apart.free, apart.ordered⟩
  | clock instant => exact apart.move mirrors apart.stage id (.wake r.crew _)

end Apart

theorem Schedule.apart (mirrors : w.Mirrors shown) (constant : s.kind = .constantArrivalRate)
    (run : Schedule w (begin w s shutdown world) h r) : Apart s shown r := by
  induction run with
  | nil =>
      refine ⟨?_, ?_, .assemble mirrors world⟩
      · simp [begin, constant]
      · simp [Crew.Waits, begin, Crew.assemble, Crew.tell]
  | snoc _ last ih => exact ih.turn mirrors last

/-- Once nobody is in flight, whoever shows what was told last shows the workers that are set aside.
After arrivals at a constant rate no active worker is shown, and after a fixed number of iterations
one at most, which was handed over and never put to work. -/
theorem Schedule.told_when_idle (mirrors : w.Mirrors shown)
    (run : Schedule w (begin w s shutdown world) h r) (idle : r.crew.isIdle = true) :
    ∃ active, shown r.crew.world = .workers active r.report.allocatedWorkers ∧ active ≤ 1 ∧
      (s.kind = .constantArrivalRate → active = 0) := by
  have nobody : r.crew.tasks.length = 0 := by
    simpa [Crew.isIdle, Crew.tasks] using idle
  have ordered := Crew.Ordered.assembled mirrors run.moves
  rw [Crew.Ordered, nobody] at ordered
  obtain ⟨active, told, few⟩ := ordered.told_unheld
  refine ⟨active, told, few, fun constant => ?_⟩
  have apart := (run.apart mirrors constant).ordered
  rw [Crew.Ordered, nobody] at apart
  obtain ⟨none_active, again, none_other⟩ := apart.told_unheld
  rw [told] at again
  cases again
  exact Nat.le_zero.mp none_other

end ExecutorRun

end LoadHarness
