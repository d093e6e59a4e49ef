import Mathlib
import LoadHarness.Proofs.Executor.Completion

/-!
# What becomes of running iterations

An iteration whose turns come in time ends in a certain millisecond and in a certain way, or never.
Nothing needs to be known of it beyond a limit, and nothing is said of how often it waits until
then. The crew stays on course as long as its iterations take their turns in the milliseconds in
which they are ready, and each turn leaves less to do.
-/

namespace LoadHarness

namespace Duration

theorem millis_ofMillis (n : Nat) : (ofMillis n).millis = n :=
  Nat.mul_div_cancel n (by decide)

/-- A wait does not end before it begins. -/
theorem le_timerMillis_afterWait (n : Nat) (d : Duration) :
    n ≤ ((ofMillis n).afterWait d).timerMillis := by
  refine Nat.le_of_mul_le_mul_right (c := nanosPerMilli) ?_ (by decide)
  exact Nat.le_trans (Nat.le_add_right _ _) (timerMillis_le_iff.mp (Nat.le_refl _))

end Duration

/-- The millisecond in which an iteration ends and how it ends; none if it does not end. -/
abbrev Fate := Option (Nat × Ending)

namespace Fate

/-- An iteration ends in a certain millisecond or later, or never. -/
def NotBefore (instant : Nat) (fate : Fate) : Prop := ∀ t e, fate = some (t, e) → instant ≤ t

theorem NotBefore.mono {instant instant' : Nat} {fate : Fate} (late : fate.NotBefore instant)
    (le : instant' ≤ instant) : fate.NotBefore instant' :=
  fun t e same => Nat.le_trans le (late t e same)

end Fate

namespace Crew

variable {ω τ : Type}

/-- An iteration that takes its next turn in a certain millisecond, whatever the world is like then,
comes to its fate within so many turns. From the limit on it may do as it likes. -/
inductive Fated (w : Workload ω τ) (limit id : Nat) : Nat → Nat → Option τ → Fate → Prop where
  | finish {n instant state ending}
      (acts : ∀ world, (w.resume (.ofMillis instant) id world state).2 = .finish ending) :
      Fated w limit id (n + 1) instant state (some (instant, ending))
  | wait {n instant state d next fate}
      (acts : ∀ world, (w.resume (.ofMillis instant) id world state).2 = .wait d next)
      (later : Fated w limit id n ((Duration.ofMillis instant).afterWait d).timerMillis
        (some next) fate) :
      Fated w limit id (n + 1) instant state fate
  | waitForEver {n instant state next}
      (acts : ∀ world, (w.resume (.ofMillis instant) id world state).2 = .waitForEver next) :
      Fated w limit id (n + 1) instant state none
  | beyond {n instant state fate} (past : limit < instant) (late : fate.NotBefore (limit + 1)) :
      Fated w limit id n instant state fate

namespace Fated

variable {w : Workload ω τ} {limit id n instant : Nat} {state : Option τ} {fate : Fate} {world : ω}

/-- No iteration ends before its next turn, as far as anything is known. -/
theorem notBefore (fated : Fated w limit id n instant state fate) {bound : Nat}
    (next : bound ≤ instant) (known : bound ≤ limit + 1) : fate.NotBefore bound := by
  induction fated with
  | finish =>
      rintro t e same
      obtain ⟨rfl, -⟩ := Prod.mk.inj (Option.some.inj same)
      exact next
  | wait _ _ ih => exact ih (Nat.le_trans next (Duration.le_timerMillis_afterWait _ _))
  | waitForEver => exact fun t e same => nomatch same
  | beyond _ late => exact late.mono known

section

variable (fated : Fated w limit id n instant state fate) (early : instant ≤ limit)

include fated early

theorem of_finish {ending : Ending}
    (resumed : (w.resume (.ofMillis instant) id world state).2 = .finish ending) :
    fate = some (instant, ending) ∧ 0 < n := by
  cases fated with
  | finish acts =>
      obtain rfl := Next.finish.inj ((acts world).symm.trans resumed)
      exact ⟨rfl, Nat.succ_pos _⟩
  | wait acts | waitForEver acts => cases (acts world).symm.trans resumed
  | beyond past => exact absurd past (Nat.not_lt.mpr early)

theorem of_wait {d : Duration} {next : τ}
    (resumed : (w.resume (.ofMillis instant) id world state).2 = .wait d next) :
    ∃ k < n, Fated w limit id k ((Duration.ofMillis instant).afterWait d).timerMillis
      (some next) fate := by
  cases fated with
  | wait acts later =>
      obtain ⟨rfl, rfl⟩ := Next.wait.inj ((acts world).symm.trans resumed)
      exact ⟨_, Nat.lt_succ_self _, later⟩
  | finish acts | waitForEver acts => cases (acts world).symm.trans resumed
  | beyond past => exact absurd past (Nat.not_lt.mpr early)

theorem of_waitForEver {next : τ}
    (resumed : (w.resume (.ofMillis instant) id world state).2 = .waitForEver next) :
    fate = none ∧ 0 < n := by
  cases fated with
  | waitForEver acts => exact ⟨rfl, Nat.succ_pos _⟩
  | finish acts | wait acts => cases (acts world).symm.trans resumed
  | beyond past => exact absurd past (Nat.not_lt.mpr early)

end

end Fated

/-! ## Crews on course -/

/-- All iterations of a crew come to their fates if they take their turns in time. -/
structure OnCourse (w : Workload ω τ) (limit : Nat) (fate : Nat → Fate) (now : Nat)
    (c : Crew ω τ) : Prop where
  ready : ∀ t ∈ c.ready, ∃ n, Fated w limit t.id n now t.state (fate t.id)
  waking : ∀ s ∈ c.sleeping, ∀ k, s.wake = some k →
    ∃ n, Fated w limit s.task.id n (max now k) s.task.state (fate s.task.id)
  asleep : ∀ s ∈ c.sleeping, s.wake = none → fate s.task.id = none

/-- The least number of turns in which an iteration comes to its fate. -/
noncomputable def turnsLeft (w : Workload ω τ) (limit : Nat) (fate : Nat → Fate) (instant : Nat)
    (t : Task τ) : Nat :=
  sInf {n | Fated w limit t.id n instant t.state (fate t.id)}

/-- What is left to do for a waiting iteration: it has to be woken as well. -/
noncomputable def waitLeft (w : Workload ω τ) (limit : Nat) (fate : Nat → Fate) (now : Nat)
    (s : Sleeper τ) : Nat :=
  match s.wake with
  | some k => 2 * turnsLeft w limit fate (max now k) s.task + 1
  | none => 0

/-- What is left to do for a crew. -/
noncomputable def effort (w : Workload ω τ) (limit : Nat) (fate : Nat → Fate) (now : Nat)
    (c : Crew ω τ) : Nat :=
  (c.ready.map fun t => 2 * turnsLeft w limit fate now t).sum +
    (c.sleeping.map (waitLeft w limit fate now)).sum

section

variable {w : Workload ω τ} {limit now now' : Nat} {fate : Nat → Fate} {c c' : Crew ω τ}
  {g : History}

theorem turnsLeft_le {instant n : Nat} {t : Task τ}
    (fated : Fated w limit t.id n instant t.state (fate t.id)) :
    turnsLeft w limit fate instant t ≤ n := Nat.sInf_le fated

theorem fated_turnsLeft {instant : Nat} {t : Task τ}
    (some_ : ∃ n, Fated w limit t.id n instant t.state (fate t.id)) :
    Fated w limit t.id (turnsLeft w limit fate instant t) instant t.state (fate t.id) :=
  Nat.sInf_mem some_

theorem effort_of_ready {t : Task τ} {rest : List (Task τ)} (ready : c.ready = t :: rest) :
    effort w limit fate now c =
      2 * turnsLeft w limit fate now t + effort w limit fate now { c with ready := rest } := by
  simp only [effort, ready, List.map_cons, List.sum_cons, Nat.add_assoc]

theorem effort_snoc (c : Crew ω τ) (s : Sleeper τ) :
    effort w limit fate now { c with sleeping := c.sleeping ++ [s] } =
      effort w limit fate now c + waitLeft w limit fate now s := by
  simp only [effort, List.map_append, List.map_cons, List.map_nil, List.sum_append, List.sum_cons,
    List.sum_nil, Nat.add_zero, Nat.add_assoc]

theorem effort_congr (ready : c'.ready.Perm c.ready) (sleeping : c'.sleeping = c.sleeping) :
    effort w limit fate now c' = effort w limit fate now c := by
  rw [effort, effort, (ready.map _).sum_eq, sleeping]

namespace OnCourse

/-- What becomes of a crew depends on its iterations alone. -/
theorem congr (course : OnCourse w limit fate now c) (ready : c'.ready.Perm c.ready)
    (sleeping : c'.sleeping = c.sleeping) : OnCourse w limit fate now c' where
  ready t mem := course.ready t (ready.mem_iff.mp mem)
  waking s mem := course.waking s (sleeping ▸ mem)
  asleep s mem := course.asleep s (sleeping ▸ mem)

/-- Nobody who is on course ends before the present instant. -/
theorem notBefore (course : OnCourse w limit fate now c) (early : now ≤ limit) {t : Task τ}
    (mem : t ∈ c.tasks) : (fate t.id).NotBefore now := by
  have known := Nat.le_succ_of_le early
  rcases List.mem_append.mp mem with ready | sleeping
  · obtain ⟨n, fated⟩ := course.ready t ready
    exact fated.notBefore (Nat.le_refl now) known
  · obtain ⟨s, waits, rfl⟩ := List.mem_map.mp sleeping
    cases wake : s.wake with
    | none =>
        rw [course.asleep s waits wake]
        exact fun t e same => nomatch same
    | some k =>
        obtain ⟨n, fated⟩ := course.waking s waits k wake
        exact fated.notBefore (Nat.le_max_left now k) known

/-- Those behind the first ready iteration are on course without it. -/
theorem of_ready (course : OnCourse w limit fate now c) {t : Task τ} {rest : List (Task τ)}
    (ready : c.ready = t :: rest) :
    Fated w limit t.id (turnsLeft w limit fate now t) now t.state (fate t.id) ∧
      OnCourse w limit fate now { c with ready := rest } := by
  refine ⟨fated_turnsLeft (course.ready t ?_), fun t' mem => course.ready t' ?_, course.waking,
    course.asleep⟩
  · rw [ready]
    exact List.mem_cons_self
  · rw [ready]
    exact List.mem_cons_of_mem t mem

/-- An iteration that is ready once more is on course with the others. -/
theorem cons_ready (course : OnCourse w limit fate now c) {t : Task τ} {n : Nat}
    (fated : Fated w limit t.id n now t.state (fate t.id)) :
    OnCourse w limit fate now { c with ready := t :: c.ready } where
  ready t' mem := by
    rcases List.mem_cons.mp mem with rfl | before
    · exact ⟨n, fated⟩
    · exact course.ready t' before
  waking := course.waking
  asleep := course.asleep

/-- So is one that waits. -/
theorem snoc_sleeping (course : OnCourse w limit fate now c) {s : Sleeper τ}
    (waking : ∀ k, s.wake = some k →
      ∃ n, Fated w limit s.task.id n (max now k) s.task.state (fate s.task.id))
    (asleep : s.wake = none → fate s.task.id = none) :
    OnCourse w limit fate now { c with sleeping := c.sleeping ++ [s] } where
  ready := course.ready
  waking s' mem := by
    rcases List.mem_append.mp mem with before | new
    · exact course.waking s' before
    · obtain rfl := List.mem_singleton.mp new
      exact waking
  asleep s' mem := by
    rcases List.mem_append.mp mem with before | new
    · exact course.asleep s' before
    · obtain rfl := List.mem_singleton.mp new
      exact asleep

/-- A turn in time leads an iteration on, and less is left to do. -/
theorem resume (course : OnCourse w limit fate now c) (early : now ≤ limit)
    (turn : Resume w (.ofMillis now) c g c') :
    OnCourse w limit fate now c' ∧ (∀ x ∈ History.endings g, fate x.1 = some (now, x.2)) ∧
      effort w limit fate now c' < effort w limit fate now c := by
  cases turn with
  | @finish t rest world e ready resumed =>
      obtain ⟨fated, others⟩ := course.of_ready ready
      obtain ⟨same, positive⟩ := fated.of_finish early (congrArg Prod.snd resumed)
      refine ⟨others.congr (.of_eq (release_ready _ _)) (release_sleeping _ _), ?_, ?_⟩
      · intro x mem
        obtain rfl := List.mem_singleton.mp mem
        exact same
      · rw [effort_of_ready ready, effort_congr (.of_eq (release_ready _ _)) (release_sleeping _ _)]
        exact Nat.lt_add_of_pos_left (Nat.mul_pos Nat.two_pos positive)
  | @wait t rest world d state ready resumed =>
      obtain ⟨fated, others⟩ := course.of_ready ready
      obtain ⟨k, fewer, later⟩ := fated.of_wait early (congrArg Prod.snd resumed)
      rw [← Nat.max_eq_right (Duration.le_timerMillis_afterWait now d)] at later
      have waits := others.snoc_sleeping
        (s := ⟨some ((Duration.ofMillis now).afterWait d).timerMillis, ⟨t.id, some state⟩⟩)
        (fun k same => ⟨_, Option.some.inj same ▸ later⟩) nofun
      refine ⟨waits.congr (.refl _) rfl, nofun, ?_⟩
      have least := turnsLeft_le (t := ⟨t.id, some state⟩) later
      rw [effort_of_ready ready]
      refine (effort_snoc { c with ready := rest } _).trans_lt ?_
      simp only [waitLeft]
      omega
  | @goOn t rest world d state ready resumed past =>
      obtain ⟨fated, others⟩ := course.of_ready ready
      obtain ⟨k, fewer, later⟩ := fated.of_wait early (congrArg Prod.snd resumed)
      rw [Duration.millis_ofMillis] at past
      rw [Nat.le_antisymm past (Duration.le_timerMillis_afterWait now d)] at later
      refine ⟨(others.cons_ready (t := ⟨t.id, some state⟩) later).congr (.refl _) rfl, nofun, ?_⟩
      have least := turnsLeft_le (t := ⟨t.id, some state⟩) later
      rw [effort_of_ready ready, effort_of_ready rfl]
      refine Nat.add_lt_add_of_lt_of_le ?_ (Nat.le_refl _)
      omega
  | @waitForEver t rest world state ready resumed =>
      obtain ⟨fated, others⟩ := course.of_ready ready
      obtain ⟨never, positive⟩ := fated.of_waitForEver early (congrArg Prod.snd resumed)
      have waits := others.snoc_sleeping (s := ⟨none, ⟨t.id, some state⟩⟩) nofun fun _ => never
      refine ⟨waits.congr (.refl _) rfl, nofun, ?_⟩
      rw [effort_of_ready ready]
      refine (effort_snoc { c with ready := rest } _).trans_lt ?_
      simp only [waitLeft]
      omega

/-- So does a whole chain of turns. -/
theorem resumes {h : History} (course : OnCourse w limit fate now c) (early : now ≤ limit)
    (chain : Chain (Resume w (.ofMillis now)) c h c') :
    OnCourse w limit fate now c' ∧ effort w limit fate now c' ≤ effort w limit fate now c := by
  induction chain with
  | nil => exact ⟨course, Nat.le_refl _⟩
  | snoc _ last ih =>
      obtain ⟨before, le⟩ := ih
      obtain ⟨after, -, less⟩ := before.resume early last
      exact ⟨after, Nat.le_trans (Nat.le_of_lt less) le⟩

/-- The first ready iteration takes at least one turn. -/
theorem runFirst (course : OnCourse w limit fate now c) (early : now ≤ limit)
    (some_ : c.ready ≠ []) :
    OnCourse w limit fate now (c.runFirst w (.ofMillis now)) ∧
      effort w limit fate now (c.runFirst w (.ofMillis now)) < effort w limit fate now c := by
  obtain ⟨t, rest, ready⟩ := List.exists_cons_of_ne_nil some_
  obtain ⟨g, next, h, first, more⟩ := resume_first (w := w) (.ofMillis now) ready
  obtain ⟨between, -, less⟩ := course.resume early first
  obtain ⟨after, le⟩ := between.resumes early more
  exact ⟨after, Nat.lt_of_le_of_lt le less⟩

end OnCourse

/-! ## The clock -/

/-- The clock goes on without passing over anyone who is ready or about to be woken. -/
structure InTime (c : Crew ω τ) (now now' : Nat) : Prop where
  le : now ≤ now'
  still : c.ready ≠ [] → now' = now
  punctual : ∀ s ∈ c.sleeping, ∀ k, s.wake = some k → now' ≤ max now k

theorem InTime.refl (c : Crew ω τ) (now : Nat) : InTime c now now :=
  ⟨Nat.le_refl now, fun _ => rfl, fun _ _ k _ => Nat.le_max_left now k⟩

/-- Those who are not passed over are woken when they meant to be. -/
theorem InTime.max_eq (inTime : InTime c now now') {s : Sleeper τ} (mem : s ∈ c.sleeping) {k : Nat}
    (wake : s.wake = some k) : max now' k = max now k := by
  have le := inTime.le
  have punctual := inTime.punctual s mem k wake
  omega

theorem OnCourse.wake (course : OnCourse w limit fate now c) (inTime : InTime c now now') :
    OnCourse w limit fate now' (c.wake now') where
  ready t mem := by
    rcases List.mem_append.mp mem with before | woken
    · rw [inTime.still (List.ne_nil_of_mem before)]
      exact course.ready t before
    · obtain ⟨s, due, rfl⟩ := List.mem_map.mp woken
      obtain ⟨mem, due⟩ := List.mem_filter.mp due
      obtain ⟨k, wake, past⟩ := (Option.any_eq_true _ _).mp due
      have fated := course.waking s mem k wake
      rw [← inTime.max_eq mem wake, Nat.max_eq_left (of_decide_eq_true past)] at fated
      exact fated
  waking s mem k wake := by
    have mem := List.mem_of_mem_filter mem
    rw [inTime.max_eq mem wake]
    exact course.waking s mem k wake
  asleep s mem := course.asleep s (List.mem_of_mem_filter mem)

variable (w limit fate) in
/-- For whoever is woken there is one thing less left to do. -/
theorem sum_wake (sleeping : List (Sleeper τ))
    (same : ∀ s ∈ sleeping, ∀ k, s.wake = some k → max now' k = max now k) :
    (((sleeping.filter fun s => s.wake.any (· ≤ now')).map (·.task)).map
        fun t => 2 * turnsLeft w limit fate now' t).sum +
      ((sleeping.filter fun s => !s.wake.any (· ≤ now')).map (waitLeft w limit fate now')).sum +
      sleeping.countP (fun s => s.wake.any (· ≤ now')) ≤
    (sleeping.map (waitLeft w limit fate now)).sum := by
  induction sleeping with
  | nil => exact Nat.le_refl 0
  | cons s rest ih =>
      have later := ih fun s' mem => same s' (List.mem_cons_of_mem s mem)
      have here := same s List.mem_cons_self
      obtain ⟨wake, task⟩ := s
      cases wake with
      | none => simpa [waitLeft] using later
      | some k =>
          have eq := here k rfl
          by_cases due : k ≤ now'
          · have now_eq : max now k = now' := by omega
            simp [waitLeft, due, now_eq] at later ⊢
            omega
          · simp [waitLeft, due, eq] at later ⊢
            omega

variable (w limit fate) in
theorem effort_wake (inTime : InTime c now now') :
    effort w limit fate now' (c.wake now') +
        c.sleeping.countP (fun s => s.wake.any (· ≤ now')) ≤ effort w limit fate now c := by
  have ready : (c.ready.map fun t => 2 * turnsLeft w limit fate now' t).sum =
      (c.ready.map fun t => 2 * turnsLeft w limit fate now t).sum := by
    by_cases none : c.ready = []
    · rw [none]
      rfl
    · rw [inTime.still none]
  have woken := sum_wake w limit fate c.sleeping fun s mem k wake => inTime.max_eq mem wake
  simp only [effort, wake, List.map_append, List.sum_append, ready]
  omega

end

end Crew

end LoadHarness
