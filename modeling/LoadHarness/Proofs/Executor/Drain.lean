import LoadHarness.Proofs.Executor.Fate
import LoadHarness.Proofs.Executor.Prompt

/-!
# Draining

An executor that starts no more iterations waits for those in flight, up to a limit, and then ends
the others from outside. In a prompt run an iteration that comes to its end before the limit ends
as it would, and an iteration that does not come to its end by the limit is aborted. The clock goes
no further than to the end of the last iteration, nor beyond the limit.
-/

namespace LoadHarness

namespace ExecutorRun

open Crew

variable {ω τ : Type} {w : Workload ω τ} {r r' : ExecutorRun ω τ} {h g : History}
  {limit : Nat} {fate : Nat → Fate}

/-! ## Instants -/

/-- The clock goes to no later instant than the next one in which an iteration is woken. -/
theorem nextInstant_le_wake {instant k : Nat} (next : r.nextInstant? = some instant)
    {s : Sleeper τ} (mem : s ∈ r.crew.sleeping) (wake : s.wake = some k) : instant ≤ k := by
  have held : k ∈ r.crew.sleeping.filterMap (·.wake) := List.mem_filterMap.mpr ⟨s, mem, wake⟩
  obtain ⟨first, least⟩ := Option.isSome_iff_exists.mp (List.isSome_min?_of_mem held)
  have before := (List.min?_eq_some_iff.mp least).2 k held
  refine Nat.le_trans ((List.min?_eq_some_iff.mp next).2 first ?_) before
  have woken : r.crew.nextWake? = some first := least
  simp [woken]

/-- A prompt turn passes over no iteration. -/
theorem PromptTurn.inTime_crew (step : PromptTurn w r g r') : r.crew.InTime r.now r'.now := by
  by_cases still : r'.now = r.now
  · rw [still]
    exact .refl _ _
  · obtain ⟨resting, instant, next, le⟩ := step.inTime still
    refine ⟨step.turn.now_le, fun ready => absurd resting.ready ready, fun s mem k wake => ?_⟩
    exact Nat.le_trans le (Nat.le_trans (nextInstant_le_wake next mem wake) (Nat.le_max_right _ _))

/-- Once nobody waits any more the clock stands still. -/
theorem PromptTurn.still (step : PromptTurn w r g r') (roused : r.crew.sleeping = [])
    (last : r.stage = .aborting ∨ r.stage = .finished) : r'.now = r.now := by
  by_contra moved
  obtain ⟨resting, -⟩ := step.inTime moved
  rcases last with stage | stage
  · have calm := resting.calm
    simp [isEager, stage, isIdle, resting.ready, roused] at calm
  · exact Bool.false_ne_true (resting.running.symm.trans (isFinished_iff.mpr stage))

/-! ## Stages of a drain -/

/-- An executor waits for iterations that are on course, up to its deadline. -/
structure Waits (w : Workload ω τ) (limit : Nat) (fate : Nat → Fate) (deadline : Duration)
    (r : ExecutorRun ω τ) : Prop where
  stage : r.stage = .draining deadline
  ends : deadline.timerMillis = limit
  early : r.now ≤ limit
  course : OnCourse w limit fate r.now r.crew

/-- An executor aborts, at the limit, those that have not come to their end. -/
structure Aborts (limit : Nat) (fate : Nat → Fate) (r : ExecutorRun ω τ) : Prop where
  stage : r.stage = .aborting
  late : r.now = limit
  roused : r.crew.sleeping = []
  left : ∀ t ∈ r.crew.ready, (fate t.id).NotBefore limit

/-- Where a drain stands: the executor waits, or aborts, or nobody is left. -/
inductive Draining (w : Workload ω τ) (limit : Nat) (fate : Nat → Fate)
    (r : ExecutorRun ω τ) : Prop where
  | waiting {deadline} (waits : Waits w limit fate deadline r)
  | aborting (aborts : Aborts limit fate r)
  | settled (stage : r.stage = .finished) (early : r.now ≤ limit) (emptied : Emptied r)

/-- How an iteration ended: by itself when it was meant to, or from outside at the limit. -/
def EndedAt (limit : Nat) (fate : Nat → Fate) (now : Nat) (x : Nat × Ending) : Prop :=
  fate x.1 = some (now, x.2) ∨ x.2 = .aborted ∧ now = limit ∧ (fate x.1).NotBefore limit

/-- What a turn of a drain leads to: the drain is still in order, and whoever ended in that turn did
so when it was meant to, or was aborted at the limit. -/
structure DrainStep (w : Workload ω τ) (limit : Nat) (fate : Nat → Fate) (now : Nat) (g : History)
    (r : ExecutorRun ω τ) : Prop where
  drain : Draining w limit fate r
  endings : ∀ x ∈ History.endings g, EndedAt limit fate now x

theorem Emptied.of_idle (idle : r.crew.isIdle = true) (counted : r.crew.ended = []) :
    Emptied r := by
  simp only [isIdle, Bool.and_eq_true, List.isEmpty_iff] at idle
  exact ⟨idle.1, idle.2, counted⟩

/-- An executor that waits goes on to wait, finishes, or gives up at the limit. -/
theorem Waits.turn {deadline : Duration} (waits : Waits w limit fate deadline r)
    (step : PromptTurn w r g r') : DrainStep w limit fate r.now g r' := by
  have inTime := step.inTime_crew
  obtain ⟨turn, moves⟩ := step
  obtain ⟨stage, ends, early, course⟩ := waits
  cases turn with
  | tick other | close other | lease other | leaseHanded other | want other | leased other
  | interrupt other | hasten other | abort other =>
      rw [stage] at other
      cases other
  | count ended =>
      exact ⟨.waiting ⟨stage, ends, early, course.congr (.refl _) rfl⟩, nofun⟩
  | finish _ idle counted => exact ⟨.settled rfl early (.of_idle idle counted), nofun⟩
  | giveUp same past =>
      obtain rfl : deadline = _ := Stage.draining.inj (stage.symm.trans same)
      have late := Nat.le_antisymm early (ends ▸ past)
      refine ⟨.aborting ⟨rfl, late, rfl, fun t mem => ?_⟩, nofun⟩
      have before : t ∈ r.crew.tasks := by
        rw [← (rouse_tasks r.crew).mem_iff]
        exact List.mem_append_left _ mem
      exact late ▸ course.notBefore early before
  | reorder perm =>
      exact ⟨.waiting ⟨stage, ends, early, course.congr perm rfl⟩, nofun⟩
  | resume alive resume =>
      obtain ⟨course, fates, -⟩ := course.resume early resume
      exact ⟨.waiting ⟨stage, ends, early, course⟩, fun x mem => .inl (fates x mem)⟩
  | signal => exact ⟨.waiting ⟨stage, ends, early, course⟩, nofun⟩
  | clock instant =>
      have due : r.nextTimer? = some limit := by rw [nextTimer?, stage, ← ends]
      refine ⟨.waiting ⟨stage, ends, ?_, course.wake inTime⟩, nofun⟩
      by_cases still : (r.moveTo instant).now = r.now
      · exact still ▸ early
      · obtain ⟨-, next, first, le⟩ := moves still
        exact Nat.le_trans le (nextInstant_le first due)

theorem Aborts.abortFirst (aborts : Aborts limit fate r) {t : Task τ} {rest : List (Task τ)}
    (ready : r.crew.ready = t :: rest) :
    Aborts limit fate { r with crew := r.crew.abortFirst w r.time } := by
  refine ⟨aborts.stage, aborts.late, ?_, fun t' mem => aborts.left t' ?_⟩
  · simp only [Crew.abortFirst, ready, release_sleeping, aborts.roused]
  · simp only [Crew.abortFirst, ready, release_ready] at mem
    exact ready ▸ List.mem_cons_of_mem t mem

/-- An executor that aborts goes on to abort, or finishes. -/
theorem Aborts.turn (aborts : Aborts limit fate r) (step : PromptTurn w r g r') :
    DrainStep w limit fate r.now g r' := by
  obtain ⟨stage, late, roused, left⟩ := id aborts
  have still := step.still roused
  cases step.turn with
  | tick other | close other | lease other | leaseHanded other | want other | leased other
  | interrupt other | hasten other | giveUp other =>
      rw [stage] at other
      cases other
  | count ended => exact ⟨.aborting ⟨stage, late, roused, left⟩, nofun⟩
  | finish _ idle counted =>
      exact ⟨.settled rfl (Nat.le_of_eq late) (.of_idle idle counted), nofun⟩
  | reorder perm =>
      exact ⟨.aborting ⟨stage, late, roused, fun t mem => left t (perm.mem_iff.mp mem)⟩, nofun⟩
  | resume alive => exact absurd stage alive
  | @abort t rest _ ready =>
      refine ⟨.aborting (aborts.abortFirst ready), fun x mem => ?_⟩
      obtain rfl := List.mem_singleton.mp mem
      exact .inr ⟨rfl, late, left t (ready ▸ List.mem_cons_self)⟩
  | signal => exact ⟨.aborting ⟨stage, late, roused, left⟩, nofun⟩
  | clock instant =>
      have same : (r.moveTo instant).now = r.now := still (.inl stage)
      refine ⟨.aborting ⟨stage, same.trans late, ?_, fun t mem => left t ?_⟩, nofun⟩
      · simp only [moveTo, wake, roused, List.filter_nil]
      · simpa only [moveTo, wake, roused, List.filter_nil, List.map_nil, List.append_nil] using mem

/-- An executor that is over stays so. -/
theorem Emptied.turn (emptied : Emptied r) (stage : r.stage = .finished) (early : r.now ≤ limit)
    (step : PromptTurn w r g r') : DrainStep w limit fate r.now g r' := by
  have still := step.still emptied.sleeping (.inr stage)
  have kept := step.turn.emptied fun _ => emptied
  have early : r'.now ≤ limit := still ▸ early
  cases step.turn with
  | tick other | close other | lease other | leaseHanded other | want other | leased other
  | interrupt other | hasten other | giveUp other | abort other =>
      rw [stage] at other
      cases other
  | finish waiting =>
      rw [stage] at waiting
      cases waiting
  | resume _ resume =>
      have nobody := emptied.ready
      cases resume <;> simp_all
  | count | reorder | signal | clock =>
      exact ⟨.settled stage early (kept (isFinished_iff.mpr stage)), nofun⟩

namespace Draining

/-- A prompt turn keeps a drain in order. -/
theorem turn (drain : Draining w limit fate r) (step : PromptTurn w r g r') :
    DrainStep w limit fate r.now g r' := by
  cases drain with
  | waiting waits => exact waits.turn step
  | aborting aborts => exact aborts.turn step
  | settled stage early emptied => exact emptied.turn stage early step

/-- A prompt turn does not pass over the limit, nor over the end of the last iteration. -/
theorem now_le (drain : Draining w limit fate r) (step : PromptTurn w r g r') {m : Nat}
    (last : limit ≤ m ∨ ∀ i ∈ r.crew.running, ∃ t e, fate i = some (t, e) ∧ t ≤ m) :
    r'.now ≤ max r.now m := by
  by_cases still : r'.now = r.now
  · exact still ▸ Nat.le_max_left _ _
  refine Nat.le_trans ?_ (Nat.le_max_right r.now m)
  cases drain with
  | waiting waits =>
      obtain ⟨stage, ends, early, course⟩ := waits
      obtain ⟨resting, instant, next, le⟩ := step.inTime still
      have due : r.nextTimer? = some limit := by rw [nextTimer?, stage, ← ends]
      have within : r'.now ≤ limit := Nat.le_trans le (nextInstant_le next due)
      rcases last with past | last
      · exact Nat.le_trans within past
      -- Somebody waits, and is woken before the end that is in store for everyone by then.
      obtain ⟨s, mem⟩ : ∃ s, s ∈ r.crew.sleeping := by
        refine List.exists_mem_of_ne_nil _ fun none => ?_
        have calm := resting.calm
        simp [isEager, stage, isIdle, resting.ready, none] at calm
      have held : s.task.id ∈ r.crew.running :=
        List.mem_map_of_mem (List.mem_append_right _ (List.mem_map_of_mem mem))
      obtain ⟨t, e, same, by_⟩ := last s.task.id held
      cases wake : s.wake with
      | none => rw [course.asleep s mem wake] at same; cases same
      | some k =>
          obtain ⟨n, fated⟩ := course.waking s mem k wake
          have passed := step.inTime_crew.punctual s mem k wake
          exact Nat.le_trans (fated.notBefore passed (Nat.le_succ_of_le within) t e same) by_
  | aborting aborts => exact absurd (step.still aborts.roused (.inl aborts.stage)) still
  | settled stage early emptied => exact absurd (step.still emptied.sleeping (.inr stage)) still

end Draining

/-! ## Whole drains -/

theorem Draining.not_isStarting (drain : Draining w limit fate r) : r.stage.isStarting = false := by
  cases drain with
  | waiting waits => rw [waits.stage]; rfl
  | aborting aborts => rw [aborts.stage]; rfl
  | settled stage => rw [stage]; rfl

/-- Nothing is started while an executor drains. -/
theorem Turn.departs (turn : Turn w r g r') (past : r.stage.isStarting = false) :
    Departs r.crew g r'.crew := by
  refine .moves turn.moves (List.filterMap_eq_nil_iff.mpr fun event mem => ?_)
  cases event with
  | started i =>
      have starting := turn.isStarting_of_started mem
      rw [past] at starting
      cases starting
  | dropped | ended | closed => rfl

/-- What holds of a drain up to some instant. -/
structure Drained (w : Workload ω τ) (limit : Nat) (fate : Nat → Fate) (r : ExecutorRun ω τ)
    (h : History) (r' : ExecutorRun ω τ) : Prop where
  drain : Draining w limit fate r'
  departs : Departs r.crew h r'.crew
  endings : ∀ x ∈ History.endings h, ∃ now ≤ r'.now, EndedAt limit fate now x
  begun : r.now ≤ r'.now
  inTime : ∀ m, r.now ≤ m →
    (limit ≤ m ∨ ∀ i ∈ r.crew.running, ∃ t e, fate i = some (t, e) ∧ t ≤ m) → r'.now ≤ m

theorem Prompt.drained (run : Prompt w r h r') (drain : Draining w limit fate r) :
    Drained w limit fate r h r' := by
  induction run with
  | nil => exact ⟨drain, .keep (.refl _) rfl rfl, nofun, Nat.le_refl _, fun m begun _ => begun⟩
  | @snoc middle last h g run step ih =>
      obtain ⟨next, fates⟩ := ih.drain.turn step
      have forward := step.turn.now_le
      have departs := step.turn.departs ih.drain.not_isStarting
      refine ⟨next, ih.departs.trans departs, fun x mem => ?_, Nat.le_trans ih.begun forward,
        fun m begun bound => ?_⟩
      · rw [History.endings_append] at mem
        rcases List.mem_append.mp mem with before | now
        · obtain ⟨now, le, ended⟩ := ih.endings x before
          exact ⟨now, Nat.le_trans le forward, ended⟩
        · exact ⟨middle.now, forward, fates x now⟩
      · refine Nat.le_trans (ih.drain.now_le step (bound.imp_right fun all i mem => all i ?_))
          (Nat.max_le.mpr ⟨ih.inTime m begun bound, Nat.le_refl m⟩)
        exact ih.departs.places.mem_iff.mp (List.mem_append_left _ mem)

end ExecutorRun

end LoadHarness
