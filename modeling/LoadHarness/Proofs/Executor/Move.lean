import LoadHarness.Executor.Crew

/-!
# Moves of a crew

A crew changes by moves: an iteration is started, waits, goes on or ends, a start is dropped,
those that ended are counted. A chain of moves leaves a history, which tells starts and ends
in the order in which they came about. Nothing is said of who makes which move and when, so
what holds after every chain of moves holds of every executor and of every order of turns.
-/

namespace LoadHarness

/-- What a history tells of a run. -/
inductive Event where
  | started (iteration : Nat)
  /-- A start was given up because every worker was taken. -/
  | dropped
  /-- An iteration ended; one that was ended from outside may never have had a turn. -/
  | ended (iteration : Nat) (ending : Ending) (begun : Bool)
  /-- The executor saw that shutdown was requested or that its time was up. -/
  | closed
  deriving DecidableEq

/-- What happened in a run, in order. -/
abbrev History := List Event

namespace History

/-- The iterations that were started, in the order of their starts. -/
def starts (h : History) : List Nat := h.filterMap fun
  | .started i => some i
  | _ => none

/-- The iterations that ended and how, in the order of their ends. -/
def endings (h : History) : List (Nat × Ending) := h.filterMap fun
  | .ended i e _ => some (i, e)
  | _ => none

/-- The iterations that ended before their first turn. -/
def unbegun (h : History) : List Nat := h.filterMap fun
  | .ended i _ false => some i
  | _ => none

/-- The iterations that ended in a certain way. -/
def endedBy (p : Ending → Bool) (h : History) : Nat := (endings h).countP fun x => p x.2

/-- The tally of all ends. -/
def tally (h : History) : Tally := (endings h).foldl (fun t x => t.record x.2) .empty

@[simp] theorem starts_append (h g : History) : starts (h ++ g) = starts h ++ starts g :=
  List.filterMap_append

@[simp] theorem endings_append (h g : History) : endings (h ++ g) = endings h ++ endings g :=
  List.filterMap_append

@[simp] theorem unbegun_append (h g : History) : unbegun (h ++ g) = unbegun h ++ unbegun g :=
  List.filterMap_append

@[simp] theorem endedBy_append (p : Ending → Bool) (h g : History) :
    endedBy p (h ++ g) = endedBy p h + endedBy p g := by
  simp only [endedBy, endings_append, List.countP_append]

@[simp] theorem endedBy_ended (p : Ending → Bool) (i : Nat) (e : Ending) (begun : Bool) :
    endedBy p [.ended i e begun] = if p e then 1 else 0 := by
  simp [endedBy, endings, List.countP_cons]

theorem foldl_record (es : List (Nat × Ending)) (t : Tally) :
    es.foldl (fun t x => t.record x.2) t =
      ⟨t.completed + es.countP fun x => x.2 = .completed,
        t.failed + es.countP fun x => x.2 ≠ .completed⟩ := by
  induction es generalizing t with
  | nil => rfl
  | cons x rest ih =>
      obtain ⟨i, e⟩ := x
      rw [List.foldl_cons, ih]
      cases e <;> simp [Tally.record] <;> omega

/-- The tally tells the iterations that completed from all others. -/
theorem tally_eq (h : History) :
    tally h = ⟨endedBy (· = .completed) h, endedBy (· ≠ .completed) h⟩ := by
  simp [tally, foldl_record, Tally.empty, endedBy]

/-- A tally counts every end once. -/
theorem tally_total (h : History) : (tally h).total = (endings h).length := by
  have hc := List.length_eq_countP_add_countP (fun x : Nat × Ending => decide (x.2 = .completed))
    (l := endings h)
  simp only [tally_eq, Tally.total, endedBy]
  simpa using hc.symm

end History

/-- A chain of steps, each of which adds to the history. -/
inductive Chain {α : Type} (step : α → History → α → Prop) : α → History → α → Prop where
  | nil (a : α) : Chain step a [] a
  | snoc {a b c : α} {h g : History} (chain : Chain step a h b) (last : step b g c) :
      Chain step a (h ++ g) c

namespace Chain

variable {α β : Type} {step : α → History → α → Prop} {step' : β → History → β → Prop}

theorem single {a b : α} {g : History} (h : step a g b) : Chain step a g b := by
  simpa using Chain.snoc (.nil a) h

theorem trans {a b c : α} {h g : History} (first : Chain step a h b)
    (second : Chain step b g c) : Chain step a (h ++ g) c := by
  induction second with
  | nil => simpa using first
  | snoc _ last ih =>
      rw [← List.append_assoc]
      exact .snoc ih last

/-- A chain is carried along by a map that sends each step to a chain. -/
theorem map {f : α → β} (carry : ∀ {a b g}, step a g b → Chain step' (f a) g (f b))
    {a b : α} {h : History} (chain : Chain step a h b) : Chain step' (f a) h (f b) := by
  induction chain with
  | nil => exact .nil _
  | snoc _ last ih => exact ih.trans (carry last)

end Chain

namespace Crew

variable {ω τ : Type}

/-- The iterations in flight. -/
def tasks (c : Crew ω τ) : List (Task τ) := c.ready ++ c.sleeping.map (·.task)

/-! ## What becomes of the iterations in flight -/

theorem launch_tasks (w : Workload ω τ) (now : Duration) (c : Crew ω τ) :
    (c.launch w now).tasks.Perm (⟨c.started, none⟩ :: c.tasks) := by
  simp only [tasks, launch, tell, List.append_assoc]
  exact List.perm_middle

@[simp] theorem release_tasks (w : Workload ω τ) (now : Duration) (c : Crew ω τ) (e : Ending) :
    (c.release w now e).tasks = c.tasks := by
  simp only [release]
  split <;> rfl

theorem tasks_of_ready {c : Crew ω τ} {t : Task τ} {rest : List (Task τ)}
    (ready : c.ready = t :: rest) : c.tasks = t :: c.tasks.tail := by
  rw [tasks, ready]
  rfl

/-- An iteration that waits after its turn stays in flight with a new state. -/
theorem sleep_tasks {c : Crew ω τ} {t : Task τ} {rest : List (Task τ)} (ready : c.ready = t :: rest)
    (world : ω) (wake : Option Nat) (state : τ) :
    ({ c with
        ready := rest
        world
        sleeping := c.sleeping ++ [⟨wake, ⟨t.id, some state⟩⟩] } : Crew ω τ).tasks.Perm
      (⟨t.id, some state⟩ :: c.tasks.tail) := by
  simp only [tasks, ready, List.map_append, List.map_cons, List.map_nil, List.cons_append,
    List.tail_cons, ← List.append_assoc]
  exact List.perm_append_singleton _ _

/-- Waking moves the due iterations from the waiting to the ready ones. -/
theorem wake_tasks (now : Nat) (c : Crew ω τ) : (c.wake now).tasks.Perm c.tasks := by
  have split := List.filter_append_perm (fun s => s.wake.any (· ≤ now)) c.sleeping
  simp only [tasks, wake, List.append_assoc, ← List.map_append]
  exact List.Perm.append_left _ (split.map _)

theorem rouse_tasks (c : Crew ω τ) : c.rouse.tasks.Perm c.tasks := by
  have sorted := List.mergeSort_perm (c.sleeping.map (·.task)) fun a b => a.id ≤ b.id
  simp only [tasks, rouse, List.map_nil, List.append_nil]
  exact List.Perm.append_left _ sorted

/-! ## Moves -/

/-- The turn of the first ready iteration up to its next wait or its end. -/
inductive Resume (w : Workload ω τ) (now : Duration) :
    Crew ω τ → History → Crew ω τ → Prop where
  | finish {c : Crew ω τ} {t rest world e} (ready : c.ready = t :: rest)
      (resumed : w.resume now t.id c.world t.state = (world, .finish e)) :
      Resume w now c [.ended t.id e true] ({ c with ready := rest, world }.release w now e)
  | wait {c : Crew ω τ} {t rest world d state} (ready : c.ready = t :: rest)
      (resumed : w.resume now t.id c.world t.state = (world, .wait d state)) :
      Resume w now c []
        { c with
          ready := rest
          world
          sleeping :=
            c.sleeping ++ [⟨some (now.afterWait d).timerMillis, ⟨t.id, some state⟩⟩] }
  /-- A wait that is over at once leaves the iteration ready. -/
  | goOn {c : Crew ω τ} {t rest world d state} (ready : c.ready = t :: rest)
      (resumed : w.resume now t.id c.world t.state = (world, .wait d state))
      (past : (now.afterWait d).timerMillis ≤ now.millis) :
      Resume w now c [] { c with ready := ⟨t.id, some state⟩ :: rest, world }
  | waitForEver {c : Crew ω τ} {t rest world state} (ready : c.ready = t :: rest)
      (resumed : w.resume now t.id c.world t.state = (world, .waitForEver state)) :
      Resume w now c []
        { c with
          ready := rest
          world
          sleeping := c.sleeping ++ [⟨none, ⟨t.id, some state⟩⟩] }

/-- A move of a crew and what it adds to the history. -/
inductive Move (w : Workload ω τ) : Crew ω τ → History → Crew ω τ → Prop where
  /-- Some of those that ended are counted. -/
  | join {c : Crew ω τ} {counted rest : List Ending} (ended : c.ended = counted ++ rest) :
      Move w c [] { c with tally := counted.foldl Tally.record c.tally, ended := rest }
  | start {c : Crew ω τ} (now : Duration) (free : c.pool.isFull = false) :
      Move w c [.started c.started] (c.start w now)
  | startHanded {c : Crew ω τ} (now : Duration) (handed : c.handed = true) :
      Move w c [.started c.started] (c.startHanded w now)
  | drop {c : Crew ω τ} (now : Duration) (full : c.pool.isFull = true) :
      Move w c [.dropped] (c.drop w now)
  /-- The executor starts no more iterations. -/
  | close (c : Crew ω τ) : Move w c [.closed] c
  | want {c : Crew ω τ} (full : c.pool.isFull = true) : Move w c [] { c with wanted := true }
  | unwant (c : Crew ω τ) : Move w c [] c.unwant
  /-- Ready iterations may take their turns in any order. -/
  | reorder {c : Crew ω τ} {ready : List (Task τ)} (perm : ready.Perm c.ready) :
      Move w c [] { c with ready }
  | resume {c c' : Crew ω τ} {now : Duration} {g : History} (h : Resume w now c g c') :
      Move w c g c'
  | abort {c : Crew ω τ} {t rest} (now : Duration) (ready : c.ready = t :: rest) :
      Move w c [.ended t.id .aborted t.state.isSome] (c.abortFirst w now)
  | wake (c : Crew ω τ) (now : Nat) : Move w c [] (c.wake now)
  | rouse (c : Crew ω τ) : Move w c [] c.rouse

theorem Move.joinAll (w : Workload ω τ) (c : Crew ω τ) : Move w c [] c.join :=
  .join (List.append_nil c.ended).symm

/-- A whole turn is a chain of resumptions, at least of one: a wait that is over at once does not
end it. -/
theorem resume_turn (w : Workload ω τ) (now : Duration) (id fuel : Nat) (c : Crew ω τ)
    (state : Option τ) :
    ∃ g c' h, Resume w now { c with ready := ⟨id, state⟩ :: c.ready } g c' ∧
      Chain (Resume w now) c' h (c.turn w now id fuel state) := by
  induction fuel generalizing c state with
  | zero =>
      unfold turn
      split
      next world e resumed => exact ⟨_, _, _, .finish rfl resumed, .nil _⟩
      next world s resumed =>
        exact ⟨_, _, _, .waitForEver (t := ⟨id, state⟩) rfl resumed, .nil _⟩
      next world d s resumed =>
        simp only [ite_self]
        exact ⟨_, _, _, .wait (t := ⟨id, state⟩) rfl resumed, .nil _⟩
  | succ fuel ih =>
      unfold turn
      split
      next world e resumed => exact ⟨_, _, _, .finish rfl resumed, .nil _⟩
      next world s resumed =>
        exact ⟨_, _, _, .waitForEver (t := ⟨id, state⟩) rfl resumed, .nil _⟩
      next world d s resumed =>
        dsimp only
        split
        · exact ⟨_, _, _, .wait (t := ⟨id, state⟩) rfl resumed, .nil _⟩
        · next late =>
          obtain ⟨g, c', h, next, rest⟩ := ih { c with world } (some s)
          have first : Resume w now { c with ready := ⟨id, state⟩ :: c.ready } []
              { c with ready := ⟨id, some s⟩ :: c.ready, world } :=
            .goOn (t := ⟨id, state⟩) rfl resumed (Nat.le_of_not_lt late)
          exact ⟨_, _, _, first, (Chain.single next).trans rest⟩

/-- The turn of the first ready iteration. -/
theorem resume_first {w : Workload ω τ} {c : Crew ω τ} {t : Task τ} {rest : List (Task τ)}
    (now : Duration) (ready : c.ready = t :: rest) :
    ∃ g c' h, Resume w now c g c' ∧ Chain (Resume w now) c' h (c.runFirst w now) := by
  have same : { c with ready := ⟨t.id, t.state⟩ :: rest } = c := by rw [← ready]
  have turn := resume_turn w now t.id w.waits { c with ready := rest } t.state
  simp only [runFirst, ready]
  exact same ▸ turn

/-- The turn of the first ready iteration, if there is one. -/
theorem resume_runFirst (w : Workload ω τ) (now : Duration) (c : Crew ω τ) :
    ∃ h, Chain (Resume w now) c h (c.runFirst w now) := by
  cases ready : c.ready with
  | nil =>
      simp only [runFirst, ready]
      exact ⟨[], .nil c⟩
  | cons t rest =>
      obtain ⟨g, c', h, first, more⟩ := resume_first (w := w) now ready
      exact ⟨_, (Chain.single first).trans more⟩

end Crew

end LoadHarness
