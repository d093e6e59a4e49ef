import LoadHarness.Proofs.Executor.Drain

/-!
# Drains come to their end

The own run of an executor that drains is prompt, and each of its rounds leaves less to do: somebody
takes a turn, or is woken, or the clock comes nearer to the limit. So the executor returns, whatever
is in flight.
-/

namespace LoadHarness

namespace ExecutorRun

open Crew

variable {ω τ : Type} {w : Workload ω τ} {r r' : ExecutorRun ω τ} {h g : History}
  {limit : Nat} {fate : Nat → Fate} {deadline : Duration} {P : ExecutorRun ω τ → Prop}
  {rank : ExecutorRun ω τ → Nat}

/-! ## What a look does -/

theorem look_of_draining (stage : r.stage = .draining deadline) :
    r.look w r.grantsInARow = r.settle := by
  rw [grantsInARow]
  split <;> simp only [look, stage]

theorem look_of_aborting (stage : r.stage = .aborting) : r.look w r.grantsInARow = r.settle := by
  rw [grantsInARow]
  split <;> simp only [look, stage]

/-- An executor that drains is over if nobody is left, gives up at its deadline, or counts those
that ended and waits for the others. -/
theorem settle_of_draining (stage : r.stage = .draining deadline) :
    r.settle.isFinished = true ∨
      r.crew.isIdle = false ∧ r.settle = { r with crew := r.crew.join }.abort ∨
      r.crew.isIdle = false ∧ r.now < deadline.timerMillis ∧
        r.settle = { r with crew := r.crew.join } := by
  have same : r.crew.join.isIdle = r.crew.isIdle := rfl
  simp only [settle, stage, same]
  cases idle : r.crew.isIdle with
  | true => exact .inl rfl
  | false =>
      rcases Nat.lt_or_ge r.now deadline.timerMillis with early | past
      · simp [early]
      · simp [past]

theorem settle_of_aborting (stage : r.stage = .aborting) :
    r.settle.isFinished = true ∨
      r.crew.isIdle = false ∧ r.settle = { r with crew := r.crew.join } := by
  have same : r.crew.join.isIdle = r.crew.isIdle := rfl
  simp only [settle, stage, same]
  cases idle : r.crew.isIdle with
  | true => exact .inl rfl
  | false => simp

/-! ## The own run is prompt -/

theorem isFinished_round (finished : (r.look w r.grantsInARow).isFinished = true) :
    (r.round w).isFinished = true := by
  simp only [round, work, finished, if_true, Bool.or_true]

theorem runReady_of_none (n : Nat) (calm : r.stopReady = false) (none : r.crew.ready = []) :
    r.runReady w n = r := by
  cases n with
  | zero => rfl
  | succ n => simp [runReady, calm, none]

/-- After a look at a drain that is not over no timer of the executor is due. -/
theorem Draining.early (drain : Draining w limit fate r)
    (running : (r.look w r.grantsInARow).isFinished = false) :
    ∀ timer, (r.look w r.grantsInARow).nextTimer? = some timer →
      (r.look w r.grantsInARow).now < timer := by
  intro timer due
  cases drain with
  | waiting waits =>
      rw [look_of_draining waits.stage] at running due ⊢
      rcases settle_of_draining waits.stage with finished | ⟨-, same⟩ | ⟨-, before, same⟩
      · rw [running] at finished
        cases finished
      · rw [same] at due
        cases due
      · rw [same] at due ⊢
        rw [nextTimer?, waits.stage] at due
        exact Option.some.inj due ▸ before
  | aborting aborts =>
      rw [look_of_aborting aborts.stage] at running due
      rcases settle_of_aborting aborts.stage with finished | ⟨-, same⟩
      · rw [running] at finished
        cases finished
      · rw [same, nextTimer?, aborts.stage] at due
        cases due
  | settled stage =>
      have same : r.look w r.grantsInARow = r := by
        rw [grantsInARow]
        split <;> simp only [look, stage]
      rw [same, isFinished_iff.mpr stage] at running
      cases running

/-- The clock moves only when everybody rests. -/
theorem Draining.resting (drain : Draining w limit fate r) (rest : (r.work w).2 = false)
    (running : (r.work w).1.isFinished = false) : Resting (r.work w).1 := by
  have early := drain.early (w := w)
  simp only [work] at rest running ⊢
  split at rest
  · next finished =>
    rw [if_pos finished, finished] at running
    cases running
  · next unfinished =>
    simp only [Bool.or_eq_false_iff, Bool.not_eq_false', List.isEmpty_iff] at rest
    obtain ⟨⟨calm, none⟩, lazy⟩ := rest
    have unfinished := Bool.eq_false_iff.mpr unfinished
    rw [if_neg (by rw [unfinished]; decide), runReady_of_none _ calm none]
    exact ⟨unfinished, none, lazy, early unfinished⟩

/-- A round of an executor that drains is prompt. -/
theorem prompt_round (drain : Draining w limit fate r) : ∃ h, Prompt w r h (r.round w) := by
  obtain ⟨h, run⟩ := prompt_work w r
  have resting := drain.resting (w := w)
  simp only [round]
  generalize r.work w = worked at run resting ⊢
  split
  · exact ⟨h, run⟩
  · next rest =>
    simp only [Bool.or_eq_true, not_or, Bool.not_eq_true] at rest
    obtain ⟨g, moved⟩ := prompt_advance w (resting rest.1 rest.2)
    exact ⟨h ++ g, run.trans moved⟩

theorem prompt_rounds (n : Nat) (drain : Draining w limit fate r) :
    ∃ h, Prompt w r h (rounds w n r) := by
  induction n generalizing r with
  | zero => exact ⟨[], .nil r⟩
  | succ n ih =>
      simp only [rounds]
      split
      · exact ⟨[], .nil r⟩
      · obtain ⟨h, first⟩ := prompt_round drain
        obtain ⟨g, rest⟩ := ih (first.drained drain).drain
        exact ⟨h ++ g, first.trans rest⟩

/-! ## What is left to do -/

/-- A run returns if it is over after some rounds. -/
def Returns (w : Workload ω τ) (r : ExecutorRun ω τ) : Prop :=
  ∃ n, (rounds w n r).isFinished = true

namespace Returns

theorem of_finished (finished : r.isFinished = true) : Returns w r := ⟨0, finished⟩

theorem of_round (later : Returns w (r.round w)) : Returns w r := by
  cases finished : r.isFinished with
  | true => exact of_finished finished
  | false =>
      obtain ⟨n, ended⟩ := later
      refine ⟨n + 1, ?_⟩
      rw [rounds, if_neg (by rw [finished]; decide)]
      exact ended

variable (rank) in
/-- A run returns if each of its rounds leaves less to do or leads to a run that returns. -/
theorem of_less (step : ∀ r, P r →
      Returns w (r.round w) ∨ P (r.round w) ∧ rank (r.round w) < rank r) (holds : P r) :
    Returns w r := by
  generalize bound : rank r = n
  induction n using Nat.strongRecOn generalizing r with
  | ind n ih =>
      rcases step r holds with elsewhere | ⟨after, less⟩
      · exact of_round elsewhere
      · exact of_round (ih _ (bound ▸ less) after rfl)

end Returns

/-- Whatever happens between two looks of an executor leaves less to do: a turn of the one who
requests shutdown, a turn of an iteration, and a move of the clock when everybody rests. -/
structure Lowers (w : Workload ω τ) (P : ExecutorRun ω τ → Prop) (rank : ExecutorRun ω τ → Nat) :
    Prop where
  stop : ∀ r, P r → r.stopReady = true → P r.requestStop ∧ rank r.requestStop < rank r
  first : ∀ r, P r → r.crew.ready ≠ [] → P (r.runFirst w) ∧ rank (r.runFirst w) < rank r
  clock : ∀ r, P r → r.stopReady = false → Resting r → P r.advance ∧ rank r.advance < rank r

namespace Lowers

theorem runReady (lowers : Lowers w P rank) (n : Nat) (r : ExecutorRun ω τ) (holds : P r) :
    P (r.runReady w n) ∧ rank (r.runReady w n) ≤ rank r ∧
      (0 < n → r.stopReady = true ∨ r.crew.ready ≠ [] → rank (r.runReady w n) < rank r) := by
  induction n generalizing r with
  | zero => exact ⟨holds, Nat.le_refl _, fun none => absurd none (Nat.lt_irrefl 0)⟩
  | succ n ih =>
      rw [ExecutorRun.runReady]
      split
      · next ready =>
        obtain ⟨next, less⟩ := lowers.stop r holds ready
        obtain ⟨after, le, -⟩ := ih _ next
        have less := Nat.lt_of_le_of_lt le less
        exact ⟨after, Nat.le_of_lt less, fun _ _ => less⟩
      · next calm =>
        split
        · next none =>
          refine ⟨holds, Nat.le_refl _, fun _ some_ => ?_⟩
          exact (some_.elim calm fun some_ => some_ (List.isEmpty_iff.mp none)).elim
        · next some_ =>
          obtain ⟨next, less⟩ := lowers.first r holds fun none => some_ (List.isEmpty_iff.mpr none)
          obtain ⟨after, le, -⟩ := ih _ next
          have less := Nat.lt_of_le_of_lt le less
          exact ⟨after, Nat.le_of_lt less, fun _ _ => less⟩

/-- A round in which the executor only counts those that ended leaves less to do. -/
theorem round (lowers : Lowers w P rank) (drain : Draining w limit fate r)
    (look : r.look w r.grantsInARow = r') (holds : P r') (same : rank r' = rank r)
    (running : ∀ r, P r → r.isFinished = false) (busy : r'.isEager = false) :
    P (r.round w) ∧ rank (r.round w) < rank r := by
  have resting := drain.resting (w := w)
  have worked : r.work w =
      (r'.runReady w turnsInARow, r'.stopReady || !r'.crew.ready.isEmpty) := by
    simp only [work, look, running _ holds, busy, Bool.or_false, Bool.false_eq_true, if_false]
  obtain ⟨after, -, less⟩ := lowers.runReady turnsInARow _ holds
  rw [worked] at resting
  simp only [ExecutorRun.round, worked, running _ after, Bool.or_false, ← same]
  cases more : r'.stopReady || !r'.crew.ready.isEmpty with
  | true =>
      refine ⟨after, less (by decide) ?_⟩
      simpa [Bool.or_eq_true, List.isEmpty_iff] using more
  | false =>
      have rest := resting more (running _ after)
      obtain ⟨calm, none⟩ := Bool.or_eq_false_iff.mp more
      rw [Bool.not_eq_false', List.isEmpty_iff] at none
      simp only [Bool.false_eq_true, if_false, runReady_of_none _ calm none] at rest ⊢
      exact lowers.clock _ holds calm rest

end Lowers

theorem runReady_stage (w : Workload ω τ) (n : Nat) (r : ExecutorRun ω τ) :
    (r.runReady w n).stage = r.stage := by
  induction n generalizing r with
  | zero => rfl
  | succ n ih =>
      have first : (r.runFirst w).stage = r.stage := by
        simp only [runFirst]
        split <;> rfl
      rw [runReady]
      split
      · obtain ⟨stopAt, stopped, same⟩ := requestStop_frame r
        rw [same]
        exact ih _
      · split
        · rfl
        · exact (ih _).trans first

/-- What is left to do for the one who requests shutdown. -/
def signalLeft (r : ExecutorRun ω τ) : Nat :=
  match r.stopAt, r.stopReady with
  | none, ready => if ready then 1 else 0
  | some a, ready =>
    if a ≤ r.now then (if ready then 1 else 2) else (if ready then 4 else 3)

theorem requestStop_signalLeft (ready : r.stopReady = true) :
    r.requestStop.signalLeft < r.signalLeft := by
  simp only [requestStop]
  cases stopAt : r.stopAt with
  | none => simp [signalLeft, stopAt, ready]
  | some a =>
      by_cases past : a ≤ r.now
      · simp [signalLeft, stopAt, ready, past]
      · simp [signalLeft, stopAt, ready, past]

theorem moveTo_signalLeft (calm : r.stopReady = false) (instant : Nat) :
    (r.moveTo instant).signalLeft ≤ r.signalLeft ∧
      ((∃ a, r.stopAt = some a ∧ a ≤ max r.now instant) →
        (r.moveTo instant).signalLeft < r.signalLeft) := by
  have forward := Nat.le_max_left r.now instant
  simp only [moveTo]
  generalize max r.now instant = now at forward ⊢
  cases stopAt : r.stopAt with
  | none => simp [signalLeft, stopAt, calm]
  | some a =>
      by_cases past : a ≤ r.now
      · have past' := Nat.le_trans past forward
        simp [signalLeft, stopAt, calm, past, past']
      · by_cases past' : a ≤ now
        · simp [signalLeft, stopAt, calm, past, past']
        · simp [signalLeft, stopAt, calm, past, past']

/-- The next instant is that of the executor, of an iteration or of the one who requests
shutdown. -/
theorem nextInstant_cases {instant : Nat} (next : r.nextInstant? = some instant) :
    r.nextTimer? = some instant ∨ (∃ s ∈ r.crew.sleeping, s.wake = some instant) ∨
      r.stopAt = some instant := by
  have mem := (List.min?_eq_some_iff.mp next).1
  simp only [List.mem_filterMap, List.mem_cons, List.not_mem_nil, or_false, id_eq,
    exists_eq_right] at mem
  rcases mem with timer | wake | stop
  · exact .inl timer.symm
  · exact .inr (.inl (List.mem_filterMap.mp (List.min?_eq_some_iff.mp wake.symm).1))
  · exact .inr (.inr stop.symm)

/-- What is left to do for an executor that drains. -/
noncomputable def drainLeft (w : Workload ω τ) (limit : Nat) (fate : Nat → Fate)
    (r : ExecutorRun ω τ) : Nat :=
  limit - r.now + effort w limit fate r.now r.crew + r.signalLeft

namespace Waits

variable (waits : Waits w limit fate deadline r)

include waits

theorem requestStop (ready : r.stopReady = true) :
    Waits w limit fate deadline r.requestStop ∧
      drainLeft w limit fate r.requestStop < drainLeft w limit fate r := by
  have less := requestStop_signalLeft ready
  obtain ⟨stopAt, stopped, same⟩ := requestStop_frame r
  rw [same] at less ⊢
  refine ⟨⟨waits.stage, waits.ends, waits.early, waits.course⟩, ?_⟩
  exact Nat.add_lt_add_left less _

theorem runFirst (some_ : r.crew.ready ≠ []) :
    Waits w limit fate deadline (r.runFirst w) ∧
      drainLeft w limit fate (r.runFirst w) < drainLeft w limit fate r := by
  obtain ⟨course, less⟩ := waits.course.runFirst waits.early some_
  have same : r.runFirst w = { r with crew := r.crew.runFirst w r.time } := by
    simp only [ExecutorRun.runFirst, waits.stage]
  rw [same]
  refine ⟨⟨waits.stage, waits.ends, waits.early, course⟩, ?_⟩
  have signal : signalLeft { r with crew := r.crew.runFirst w r.time } = r.signalLeft := rfl
  rw [drainLeft, drainLeft, signal]
  exact Nat.add_lt_add_right (Nat.add_lt_add_left less _) _

theorem nextTimer : r.nextTimer? = some limit := by
  rw [nextTimer?, waits.stage, ← waits.ends]

/-- When everybody rests the clock moves, or somebody is woken. -/
theorem advance (calm : r.stopReady = false) (resting : Resting r) :
    Waits w limit fate deadline r.advance ∧
      drainLeft w limit fate r.advance < drainLeft w limit fate r := by
  obtain ⟨instant, next⟩ : ∃ instant, r.nextInstant? = some instant := by
    refine Option.isSome_iff_exists.mp (List.isSome_min?_of_mem (a := limit) ?_)
    simp [waits.nextTimer]
  simp only [ExecutorRun.advance, next]
  have within := nextInstant_le next waits.nextTimer
  have before := resting.early limit waits.nextTimer
  have now : (r.moveTo instant).now = max r.now instant := rfl
  have step : PromptTurn w r [] (r.moveTo instant) :=
    ⟨.clock r instant, fun moved => ⟨resting, instant, next, by omega⟩⟩
  have inTime := step.inTime_crew
  refine ⟨⟨waits.stage, waits.ends, now ▸ by omega, waits.course.wake inTime⟩, ?_⟩
  have woken := effort_wake w limit fate inTime
  obtain ⟨signal, signals⟩ := moveTo_signalLeft calm instant
  have crew : (r.moveTo instant).crew = r.crew.wake (r.moveTo instant).now := rfl
  rw [drainLeft, drainLeft, crew]
  rcases Nat.lt_or_ge r.now instant with later | due
  · omega
  · -- The clock stands still, so it is someone else than the executor whose time has come.
    rcases nextInstant_cases next with timer | ⟨s, mem, wakes⟩ | stop
    · rw [waits.nextTimer] at timer
      have same := Option.some.inj timer
      omega
    · have someone : 0 < r.crew.sleeping.countP
          fun s => s.wake.any (· ≤ (r.moveTo instant).now) := by
        refine List.countP_pos_iff.mpr ⟨s, mem, ?_⟩
        rw [wakes, now]
        exact decide_eq_true (Nat.le_max_right r.now instant)
      omega
    · have less := signals ⟨instant, stop, Nat.le_max_right r.now instant⟩
      omega

/-- Counting those that ended does not concern the others. -/
theorem join : Waits w limit fate deadline { r with crew := r.crew.join } :=
  ⟨waits.stage, waits.ends, waits.early, waits.course.congr (.refl _) rfl⟩

omit waits in
theorem lowers : Lowers w (Waits w limit fate deadline) (drainLeft w limit fate) where
  stop _ waits := waits.requestStop
  first _ waits := waits.runFirst
  clock _ waits := waits.advance

/-- A round ends the drain, gives up the wait, or leaves less to do. -/
theorem round :
    (r.round w).isFinished = true ∨ (r.round w).stage = .aborting ∨
      Waits w limit fate deadline (r.round w) ∧
        drainLeft w limit fate (r.round w) < drainLeft w limit fate r := by
  have looked := look_of_draining (w := w) waits.stage
  rcases settle_of_draining waits.stage with finished | ⟨-, same⟩ | ⟨busy, -, same⟩
  · exact .inl (isFinished_round (looked ▸ finished))
  · right
    left
    have stage : (r.work w).1.stage = .aborting := by
      rw [← looked] at same
      simp only [work, same]
      exact runReady_stage w _ _
    simp only [ExecutorRun.round]
    split
    · exact stage
    · simp only [ExecutorRun.advance]
      split <;> exact stage
  · right
    right
    refine lowers.round (.waiting waits) (looked.trans same) waits.join rfl (fun r waits => ?_) ?_
    · rw [isFinished, waits.stage]
    · rw [isEager, waits.stage]
      exact busy

end Waits

namespace Aborts

/-- Each iteration is aborted in a turn of its own. -/
def abortLeft (r : ExecutorRun ω τ) : Nat := r.crew.ready.length + if r.stopReady then 1 else 0

theorem lowers : Lowers w (Aborts limit fate) abortLeft where
  stop r aborts ready := by
    obtain ⟨stopAt, stopped, same⟩ := requestStop_frame r
    rw [same]
    refine ⟨⟨aborts.stage, aborts.late, aborts.roused, aborts.left⟩, ?_⟩
    simp [abortLeft, ready]
  first r aborts some_ := by
    obtain ⟨t, rest, ready⟩ := List.exists_cons_of_ne_nil some_
    have same : r.runFirst w = { r with crew := r.crew.abortFirst w r.time } := by
      simp only [runFirst, aborts.stage]
    rw [same]
    refine ⟨aborts.abortFirst ready, ?_⟩
    simp [abortLeft, Crew.abortFirst, ready]
  clock r aborts calm resting := by
    have busy := resting.calm
    rw [isEager, aborts.stage] at busy
    simp [isIdle, resting.ready, aborts.roused] at busy

theorem returns (aborts : Aborts limit fate r) : Returns w r := by
  refine Returns.of_less abortLeft (fun r aborts => ?_) aborts
  have looked := look_of_aborting (w := w) aborts.stage
  rcases settle_of_aborting aborts.stage with finished | ⟨busy, same⟩
  · exact .inl (.of_finished (isFinished_round (looked ▸ finished)))
  · refine .inr (lowers.round (.aborting aborts) (looked.trans same) ?_ rfl (fun r aborts => ?_) ?_)
    · exact ⟨aborts.stage, aborts.late, aborts.roused, aborts.left⟩
    · rw [isFinished, aborts.stage]
    · rw [isEager, aborts.stage]
      exact busy

end Aborts

theorem Waits.returns (waits : Waits w limit fate deadline r) : Returns w r := by
  refine Returns.of_less (drainLeft w limit fate) (fun r waits => ?_) waits
  rcases waits.round with finished | stage | less
  · exact .inl (.of_finished finished)
  · -- whoever gives up is still in order, and ends the others one after the other
    obtain ⟨h, run⟩ := prompt_round (.waiting waits)
    left
    cases (run.drained (.waiting waits)).drain with
    | waiting later => cases later.stage.symm.trans stage
    | aborting aborts => exact aborts.returns
    | settled finished => exact .of_finished (isFinished_iff.mpr finished)
  · exact .inr less

/-- Whatever is in flight, an executor that drains returns. -/
theorem Draining.returns (drain : Draining w limit fate r) : Returns w r := by
  cases drain with
  | waiting waits => exact waits.returns
  | aborting aborts => exact aborts.returns
  | settled stage => exact .of_finished (isFinished_iff.mpr stage)

end ExecutorRun

end LoadHarness
