import Mathlib
import LoadHarness.Proofs.Executor.Invariant

/-!
# What iterations in flight have earned

Something may hold of a world only once an iteration has ended, while the iteration works
towards it turn by turn. What a waiting iteration has earned so far is a number that its state
tells; a world has paid for what was earned by all and owes for what has ended. A workload
covers its debts if no turn earns or owes more than it pays. Then at every moment what is owed,
together with what the iterations in flight have earned, was paid.
-/

namespace LoadHarness

variable {ω τ : Type}

/-- What an iteration has earned in the state in which it waits, if it waits. -/
def earnedIn (earned : τ → Nat) (state : Option τ) : Nat := (state.map earned).getD 0

/-- Nothing that happens to a workload earns or owes more than it pays. -/
structure Workload.Covers (w : Workload ω τ) (paid owed : ω → Nat) (earned : τ → Nat) : Prop where
  resume : ∀ now i world state,
    paid world + owed (w.resume now i world state).1 +
        earnedIn earned (w.resume now i world state).2.state? ≤
      paid (w.resume now i world state).1 + owed world + earnedIn earned state
  abandon : ∀ now i world state,
    paid world + owed (w.abandon now i world state) ≤
      paid (w.abandon now i world state) + owed world + earned state
  notice : ∀ now world n,
    paid world + owed (w.notice now world n) ≤ paid (w.notice now world n) + owed world

namespace Crew

/-- What the iterations in flight have earned. -/
def earned (earned : τ → Nat) (c : Crew ω τ) : Nat :=
  (c.tasks.map fun t => earnedIn earned t.state).sum

/-- What is owed or earned was paid. -/
def Covered (paid owed : ω → Nat) (earned : τ → Nat) (c : Crew ω τ) : Prop :=
  owed c.world + c.earned earned ≤ paid c.world

end Crew

namespace Workload.Covers

open Crew (Covered Move Resume)

variable {w : Workload ω τ} {paid owed : ω → Nat} {earned : τ → Nat} {c c' : Crew ω τ}
  {g h : History}

theorem earned_of_perm {tasks : List (Task τ)} (perm : c.tasks.Perm tasks) :
    c.earned earned = (tasks.map fun t => earnedIn earned t.state).sum :=
  (perm.map _).sum_nat

/-- What the first of the ready iterations has earned, and what all others have. -/
theorem earned_of_ready {t : Task τ} {rest : List (Task τ)} (ready : c.ready = t :: rest) :
    c.earned earned = earnedIn earned t.state + Crew.earned earned { c with ready := rest } := by
  simp [Crew.earned, Crew.tasks, ready]

/-- A change of the tasks that loses none keeps what was earned. -/
theorem ofPerm (covered : Covered paid owed earned c) (world : c'.world = c.world)
    (tasks : c'.tasks.Perm c.tasks) : Covered paid owed earned c' := by
  rw [Covered, world, earned_of_perm tasks]
  exact covered

theorem notice_covered (covers : w.Covers paid owed earned) (now : Duration) (n : Notice)
    (covered : Covered paid owed earned c) :
    Covered paid owed earned { c with world := w.notice now c.world n } := by
  have told := covers.notice now c.world n
  have before : owed c.world + c.earned earned ≤ paid c.world := covered
  show owed (w.notice now c.world n) + c.earned earned ≤ paid (w.notice now c.world n)
  omega

theorem launch (covers : w.Covers paid owed earned) (now : Duration)
    (covered : Covered paid owed earned c) : Covered paid owed earned (c.launch w now) := by
  have told := covers.notice_covered now c.pool.lease.leaseNotice covered
  have perm := Crew.launch_tasks w now c
  rw [Covered, earned_of_perm perm, List.map_cons, List.sum_cons]
  show _ + (0 + c.earned earned) ≤ _
  rw [Nat.zero_add]
  exact told

theorem release (covers : w.Covers paid owed earned) (now : Duration) (e : Ending)
    (covered : Covered paid owed earned c) : Covered paid owed earned (c.release w now e) := by
  have told := covers.notice_covered now c.pool.stopNotice covered
  simp only [Crew.release]
  split <;> exact told

/-- The turn of an iteration is paid for. -/
theorem turn {now : Duration} (covers : w.Covers paid owed earned) (turn : Resume w now c g c')
    (covered : Covered paid owed earned c) : Covered paid owed earned c' := by
  have before : owed c.world + c.earned earned ≤ paid c.world := covered
  have paidFor {t : Task τ} {world : ω} {next : Next τ}
      (resumed : w.resume now t.id c.world t.state = (world, next)) :
      paid c.world + owed world + earnedIn earned next.state? ≤
        paid world + owed c.world + earnedIn earned t.state := by
    have turned := covers.resume now t.id c.world t.state
    rwa [resumed] at turned
  cases turn with
  | @finish t rest world e ready resumed =>
      have paidFor := paidFor resumed
      have ended : earnedIn earned (Next.finish e : Next τ).state? = 0 := rfl
      rw [earned_of_ready ready] at before
      refine covers.release now e ?_
      show owed world + Crew.earned earned { c with ready := rest } ≤ paid world
      omega
  | @wait t rest world _ s ready resumed | @waitForEver t rest world s ready resumed =>
      have paidFor := paidFor resumed
      have waits : earnedIn earned (some s) = earned s := rfl
      have sleeps := Crew.sleep_tasks ready world
      rw [earned_of_perm (.of_eq (Crew.tasks_of_ready ready)), List.map_cons, List.sum_cons]
        at before
      rw [Covered, earned_of_perm (sleeps _ s), List.map_cons, List.sum_cons]
      simp only [Next.state?] at paidFor ⊢
      omega
  | @goOn t rest world d s ready resumed past =>
      have paidFor := paidFor resumed
      have after : Crew.tasks { c with ready := ⟨t.id, some s⟩ :: rest, world } =
          ⟨t.id, some s⟩ :: c.tasks.tail := by
        rw [Crew.tasks, Crew.tasks, ready]
        rfl
      rw [earned_of_perm (.of_eq (Crew.tasks_of_ready ready)), List.map_cons, List.sum_cons]
        at before
      rw [Covered, earned_of_perm (.of_eq after), List.map_cons, List.sum_cons]
      simp only [Next.state?] at paidFor ⊢
      omega

/-- An iteration that is ended from outside leaves nothing unpaid. -/
theorem abort {t : Task τ} {rest : List (Task τ)} (covers : w.Covers paid owed earned)
    (now : Duration) (ready : c.ready = t :: rest) (covered : Covered paid owed earned c) :
    Covered paid owed earned (c.abortFirst w now) := by
  have before : owed c.world + c.earned earned ≤ paid c.world := covered
  rw [earned_of_ready ready] at before
  simp only [Crew.abortFirst, ready]
  refine covers.release now .aborted ?_
  obtain ⟨id, state⟩ := t
  cases state with
  | none =>
      show owed c.world + Crew.earned earned { c with ready := rest } ≤ paid c.world
      omega
  | some state =>
      have given := covers.abandon now id c.world state
      have waited : earnedIn earned (Task.mk id (some state)).state = earned state := rfl
      show owed (w.abandon now id c.world state) + Crew.earned earned { c with ready := rest } ≤
        paid (w.abandon now id c.world state)
      omega

theorem move (covers : w.Covers paid owed earned) (move : Move w c g c')
    (covered : Covered paid owed earned c) : Covered paid owed earned c' := by
  cases move with
  | join | close | want | unwant => exact covered
  | drop now => exact covers.notice_covered now .dropped covered
  | start now | startHanded now => exact covers.launch now covered
  | reorder perm => exact ofPerm covered rfl (perm.append_right _)
  | resume turn => exact covers.turn turn covered
  | abort now ready => exact covers.abort now ready covered
  | wake now => exact ofPerm covered rfl (Crew.wake_tasks now c)
  | rouse => exact ofPerm covered rfl (Crew.rouse_tasks c)

/-- What is owed or earned was paid, after every chain of moves. -/
theorem moves (covers : w.Covers paid owed earned) (chain : Chain (Move w) c h c')
    (covered : Covered paid owed earned c) : Covered paid owed earned c' := by
  induction chain with
  | nil => exact covered
  | snoc _ last ih => exact covers.move last ih

/-- What is owed or earned was paid, after all moves of a crew that began without iterations. -/
theorem assembled {world : ω} {preAllocated size : Nat} (covers : w.Covers paid owed earned)
    (start : owed world ≤ paid world)
    (chain : Chain (Move w) (.assemble w world preAllocated size) h c) :
    Covered paid owed earned c := by
  refine covers.moves chain ?_
  have told := covers.notice .zero world (Pool.ofSizes preAllocated size).openNotice
  show owed (w.notice .zero world _) + 0 ≤ paid (w.notice .zero world _)
  omega

end Workload.Covers

end LoadHarness
