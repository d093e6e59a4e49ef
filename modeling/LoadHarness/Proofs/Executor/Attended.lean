import LoadHarness.Proofs.Executor.FixedNumber

/-!
# Attended runs

A run is attended to if its executor, whenever it would go on, looks again at some later time. When
that is, and who takes turns in between, is left open. Nothing more is needed for a fixed number of
iterations to be run to the end, provided that each iteration that is started ends at some time: a
worker that becomes free lets the executor start the next one, and the last end lets it return.
-/

namespace LoadHarness

namespace ExecutorRun

variable {ω τ : Type} {w : Workload ω τ} {r r' : ExecutorRun ω τ} {h g : History}
  {s : ExecutorSettings} {shutdown : Shutdown} {world : ω} {run : Nat → ExecutorRun ω τ} {k m : Nat}

/-- A run that goes on for ever, in which the executor looks again whenever it would go on. -/
structure Attended (w : Workload ω τ) (run : Nat → ExecutorRun ω τ) : Prop where
  leads : ∀ k, Leads w (run k) (run (k + 1))
  looks : ∀ k, (run k).isEager = true →
    ∃ m ≥ k, ∃ grants, Leads w ((run m).look w (grants + 1)) (run (m + 1))

/-- Each iteration in flight is not in flight any more at some later time. -/
def AllEnd (run : Nat → ExecutorRun ω τ) : Prop :=
  ∀ k, ∀ i ∈ (run k).crew.running, ∃ m ≥ k, i ∉ (run m).crew.running

/-! ## The executor's own run is attended to -/

/-- In each of its rounds an executor looks first. -/
theorem leads_look_round (w : Workload ω τ) (r : ExecutorRun ω τ) :
    Leads w (r.look w r.grantsInARow) (r.round w) := by
  have worked : Leads w (r.look w r.grantsInARow) (r.work w).1 := by
    simp only [work]
    split
    · exact .refl _
    · exact leads_runReady w turnsInARow _
  simp only [round]
  split
  · exact worked
  · simp only [advance]
    split
    · exact worked
    · exact worked.trans (leads_moveTo w _ _)

theorem rounds_succ (w : Workload ω τ) (n : Nat) (r : ExecutorRun ω τ) :
    rounds w (n + 1) r =
      if (rounds w n r).isFinished then rounds w n r else (rounds w n r).round w := by
  induction n generalizing r with
  | zero =>
      cases finished : r.isFinished <;> simp [rounds, finished]
  | succ n ih =>
      rw [rounds]
      split
      · next finished => simp only [rounds, finished, if_true]
      · next running =>
        have same : rounds w (n + 1) r = rounds w n (r.round w) := by
          rw [rounds, if_neg running]
        rw [ih, same]

theorem attended_rounds (w : Workload ω τ) (r : ExecutorRun ω τ) :
    Attended w fun n => rounds w n r where
  leads k := by
    rw [rounds_succ]
    split
    · exact .refl _
    · exact leads_round w _
  looks k eager := by
    have running : (rounds w k r).isFinished = false := by
      refine Bool.eq_false_iff.mpr fun finished => ?_
      rw [isEager, isFinished_iff.mp finished] at eager
      cases eager
    have grants : ∃ grants, (rounds w k r).grantsInARow = grants + 1 := by
      rw [grantsInARow]
      split
      · exact ⟨63, rfl⟩
      · exact ⟨127, rfl⟩
    obtain ⟨grants, same⟩ := grants
    refine ⟨k, Nat.le_refl k, grants, ?_⟩
    rw [rounds_succ, running, ← same]
    exact leads_look_round w _

/-! ## What a look does -/

theorem Leads.started_le (leads : Leads w r r') : r.crew.started ≤ r'.crew.started := by
  obtain ⟨h, run⟩ := leads
  rw [Crew.moves_started run.moves]
  exact Nat.le_add_right _ _

/-- While nothing is started, iterations only leave. -/
theorem Leads.departs (leads : Leads w r r') (same : r'.crew.started = r.crew.started) :
    ∃ ends, (r'.crew.running ++ ends).Perm r.crew.running := by
  obtain ⟨h, run⟩ := leads
  have noStart : History.starts h = [] := by
    have started := Crew.moves_started run.moves
    rw [← List.length_eq_zero_iff]
    omega
  exact ⟨_, (Crew.Departs.moves run.moves noStart).places⟩

/-- The stage of a run never starts iterations again. -/
theorem Leads.not_isStarting (leads : Leads w r r') (past : r.stage.isStarting = false) :
    r'.stage.isStarting = false := by
  obtain ⟨h, run⟩ := leads
  induction run with
  | nil => exact past
  | snoc _ last ih => exact last.not_isStarting ih

theorem Leads.isFinished (leads : Leads w r r') (finished : r.isFinished = true) :
    r'.isFinished = true := by
  obtain ⟨h, run⟩ := leads
  induction run with
  | nil => exact finished
  | snoc _ last ih =>
      have stage := isFinished_iff.mp ih
      rw [isFinished_iff]
      cases last with
      | tick other | close other | lease other | leaseHanded other | want other | leased other
      | interrupt other | hasten other | giveUp other | abort other =>
          cases stage.symm.trans other
      | finish => rfl
      | count | reorder | resume | signal | clock => exact stage

/-- An executor that is eager to start an iteration does so in its next look, unless it has started
all. -/
theorem look_of_leasing (grants : Nat) (stage : r.stage = .leasing) (running : r.stopped = false)
    (eager : r.isEager = true) :
    (r.look w (grants + 1)).stage.isStarting = false ∨
      r.crew.started < (r.look w (grants + 1)).crew.started := by
  rw [isEager, stage] at eager
  simp only [look, stage, running, Bool.false_eq_true, if_false]
  split
  · exact .inl ((leads_settleOrDrain w r).not_isStarting rfl)
  · right
    split
    · refine Nat.lt_of_lt_of_le ?_ (leads_look w grants _).started_le
      exact Nat.lt_succ_self _
    · next empty =>
      rw [Bool.or_eq_true, or_iff_right empty, Bool.not_eq_true'] at eager
      rw [if_neg (Bool.eq_false_iff.mp eager)]
      refine Nat.lt_of_lt_of_le ?_ (leads_look w grants _).started_le
      exact Nat.lt_succ_self _

/-- An executor that starts iterations is eager exactly if not every worker has one. -/
theorem Schedule.isEager_iff (schedule : Schedule w (begin w s shutdown world) h r)
    (stage : r.stage = .leasing) : r.isEager = true ↔ r.crew.running.length < s.mostLeases := by
  have taken := schedule.staffed.taken
  have bounded := schedule.staffed.bounded
  have most : r.crew.pool.max = s.mostLeases := schedule.marked.most
  rw [Crew.running, List.length_map, ← most]
  simp only [isEager, stage, Bool.or_eq_true, Bool.not_eq_true', Pool.isFull,
    decide_eq_false_iff_not, Nat.not_le]
  cases handed : r.crew.handed with
  | true =>
      rw [handed, Bool.toNat_true] at taken
      simp only [true_or, true_iff]
      omega
  | false =>
      rw [handed, Bool.toNat_false] at taken
      simp only [Bool.false_eq_true, false_or]
      omega

/-- An executor that settles is eager exactly if nobody is in flight. -/
theorem isEager_of_settling (stage : r.stage = .settling) :
    r.isEager = true ↔ r.crew.running = [] := by
  rw [isEager, stage]
  simp [Crew.isIdle, Crew.running, Crew.tasks]

/-- An executor that waits for the last end returns in the next look after it. -/
theorem look_of_settling (grants : Nat) (stage : r.stage = .settling)
    (nobody : r.crew.running = []) : (r.look w (grants + 1)).isFinished = true := by
  have idle := (isEager_of_settling stage).mpr nobody
  rw [isEager, stage] at idle
  have same : r.crew.join.isIdle = true := idle
  simp only [look, stage, settleOrDrain, settle, same, if_true]
  rfl

/-! ## Iterations leave -/

theorem Attended.leads_of_le (attended : Attended w run) (le : k ≤ m) :
    Leads w (run k) (run m) := by
  induction le with
  | refl => exact .refl _
  | step _ ih => exact ih.trans (attended.leads _)

/-- While nothing is started, those in flight were in flight before. -/
theorem Attended.departs (attended : Attended w run) (le : k ≤ m)
    (same : (run m).crew.started = (run k).crew.started) :
    ∃ ends, ((run m).crew.running ++ ends).Perm (run k).crew.running :=
  (attended.leads_of_le le).departs same

theorem Attended.running_le (attended : Attended w run) (le : k ≤ m)
    (same : (run m).crew.started = (run k).crew.started) :
    (run m).crew.running.length ≤ (run k).crew.running.length := by
  obtain ⟨ends, perm⟩ := attended.departs le same
  rw [← perm.length_eq, List.length_append]
  exact Nat.le_add_right _ _

/-- If nothing is started any more, the iterations in flight become fewer. -/
theorem Attended.exists_fewer (attended : Attended w run) (allEnd : AllEnd run)
    (still : ∀ m ≥ k, (run m).crew.started = (run k).crew.started)
    (busy : (run k).crew.running ≠ []) :
    ∃ m ≥ k, (run m).crew.running.length < (run k).crew.running.length := by
  obtain ⟨i, mem⟩ := List.exists_mem_of_ne_nil _ busy
  obtain ⟨m, later, gone⟩ := allEnd k i mem
  refine ⟨m, later, ?_⟩
  obtain ⟨ends, perm⟩ := attended.departs later (still m later)
  have left : i ∈ ends := by
    rcases List.mem_append.mp (perm.mem_iff.mpr mem) with stays | left
    · exact absurd stays gone
    · exact left
  have length := perm.length_eq
  have some_end := List.length_pos_of_mem left
  rw [List.length_append] at length
  omega

/-! ## All iterations are started, and then they end -/

section Fixed

variable (fixed : s.kind = .fixedIterations) (first : run 0 = begin w s shutdown world)
  (attended : Attended w run) (running : ∀ k, (run k).stopped = false)

include first attended

theorem exists_schedule (k : Nat) : ∃ h, Schedule w (begin w s shutdown world) h (run k) :=
  first ▸ attended.leads_of_le (Nat.zero_le k)

/-- If nothing is started any more, a worker becomes free: where all have iterations, one of these
ends. -/
theorem exists_free (allEnd : AllEnd run)
    (still : ∀ m ≥ k, (run m).crew.started = (run k).crew.started) :
    ∃ m ≥ k, (run m).crew.running.length < s.mostLeases := by
  by_cases free : (run k).crew.running.length < s.mostLeases
  · exact ⟨k, Nat.le_refl k, free⟩
  · have some_worker : 0 < s.mostLeases := Nat.le_max_right _ 1
    have busy : (run k).crew.running ≠ [] := by
      intro nobody
      rw [nobody] at free
      exact free some_worker
    obtain ⟨m, later, fewer⟩ := attended.exists_fewer allEnd still busy
    obtain ⟨h, schedule⟩ := exists_schedule first attended k
    have most := schedule.held_le
    rw [schedule.accounted.held_eq] at most
    have length : (run k).crew.running.length = (run k).crew.tasks.length := List.length_map _
    exact ⟨m, later, by omega⟩

include fixed running

theorem exists_unhurried (k : Nat) : ∃ h, Unhurried w s (run k) h := by
  obtain ⟨h, schedule⟩ := exists_schedule first attended k
  exact ⟨h, schedule.unhurried fixed (running k)⟩

variable (allEnd : AllEnd run)

include allEnd

/-- An executor that starts iterations starts one more, unless it has started all. -/
theorem exists_later_start (k : Nat) :
    ∃ m ≥ k, (run m).stage.isStarting = false ∨
      (run k).crew.started < (run m).crew.started := by
  refine Classical.byContradiction fun none => ?_
  have still : ∀ m ≥ k, (run m).crew.started = (run k).crew.started := fun m later =>
    Nat.le_antisymm (Nat.le_of_not_lt fun more => none ⟨m, later, .inr more⟩)
      (attended.leads_of_le later).started_le
  have stays : ∀ m ≥ k, (run m).stage = .leasing := by
    intro m later
    obtain ⟨h, unhurried⟩ := exists_unhurried fixed first attended running m
    rcases unhurried.stage with leasing | settling | finished
    · exact leasing
    · exact absurd ⟨m, later, .inl (by rw [settling]; rfl)⟩ none
    · exact absurd ⟨m, later, .inl (by rw [finished]; rfl)⟩ none
  obtain ⟨m, later, free⟩ := exists_free first attended allEnd still
  -- the worker stays free until the executor looks
  have eager : ∀ n ≥ m, (run n).isEager = true := by
    intro n after
    have later' := Nat.le_trans later after
    obtain ⟨h, schedule⟩ := exists_schedule first attended n
    have fewer := attended.running_le after ((still n later').trans (still m later).symm)
    exact (schedule.isEager_iff (stays n later')).mpr (Nat.lt_of_le_of_lt fewer free)
  obtain ⟨n, after, grants, look⟩ := attended.looks m (eager m (Nat.le_refl m))
  have later' := Nat.le_trans later after
  rcases look_of_leasing grants (stays n later') (running n) (eager n after) with past | more
  · exact none ⟨n + 1, Nat.le_succ_of_le later', .inl (look.not_isStarting past)⟩
  · have before := still n later'
    have le := look.started_le
    exact none ⟨n + 1, Nat.le_succ_of_le later', .inr (by omega)⟩

/-- At some time all iterations are started. -/
theorem exists_started : ∃ k, (run k).stage.isStarting = false := by
  -- what is left to start becomes less
  have less (n k : Nat) (left : s.iterations - (run k).crew.started = n) :
      ∃ m, (run m).stage.isStarting = false := by
    induction n using Nat.strongRecOn generalizing k with
    | ind n ih =>
        obtain ⟨m, -, past | more⟩ :=
          exists_later_start fixed first attended running allEnd k
        · exact ⟨m, past⟩
        · obtain ⟨h, unhurried⟩ := exists_unhurried fixed first attended running m
          have few := unhurried.few
          exact ih _ (by omega) m rfl
  exact less _ 0 rfl

/-- At some time the executor returns. -/
theorem exists_finished : ∃ k, (run k).isFinished = true := by
  obtain ⟨k, started⟩ := exists_started fixed first attended running allEnd
  -- those in flight become fewer
  generalize left : (run k).crew.running.length = n
  induction n using Nat.strongRecOn generalizing k with
  | ind n ih =>
      have stage (m : Nat) (later : m ≥ k) :
          (run m).crew.started = s.iterations ∧
            ((run m).stage = .settling ∨ (run m).isFinished = true) := by
        have past := (attended.leads_of_le later).not_isStarting started
        obtain ⟨h, unhurried⟩ := exists_unhurried fixed first attended running m
        have other : (run m).stage ≠ .leasing := by
          intro leasing
          rw [leasing] at past
          cases past
        exact ⟨unhurried.all other,
          (unhurried.stage.resolve_left other).imp_right isFinished_iff.mpr⟩
      have still (m : Nat) (later : m ≥ k) :
          (run m).crew.started = (run k).crew.started :=
        (stage m later).1.trans (stage k (Nat.le_refl k)).1.symm
      obtain settling | finished := (stage k (Nat.le_refl k)).2
      · by_cases nobody : (run k).crew.running = []
        · have eager := (isEager_of_settling settling).mpr nobody
          obtain ⟨m, later, grants, look⟩ := attended.looks k eager
          obtain settling | finished := (stage m later).2
          · have fewer := attended.running_le later (still m later)
            rw [nobody, List.length_nil, Nat.le_zero, List.length_eq_zero_iff] at fewer
            exact ⟨m + 1, look.isFinished (look_of_settling grants settling fewer)⟩
          · exact ⟨m, finished⟩
        · obtain ⟨m, later, fewer⟩ := attended.exists_fewer allEnd still nobody
          exact ih _ (left ▸ fewer) m
            ((attended.leads_of_le later).not_isStarting started) rfl
      · exact ⟨k, finished⟩

end Fixed

/-! ## Runs that nobody shuts down -/

/-- Once a run is over, all its iterations have ended. -/
theorem allEnd_of_finished {n : Nat}
    (finished : (rounds w n (begin w s shutdown world)).isFinished = true) :
    AllEnd fun n => rounds w n (begin w s shutdown world) := by
  intro k i mem
  have later := (attended_rounds w (begin w s shutdown world)).leads_of_le (Nat.le_max_right k n)
  obtain ⟨h, schedule⟩ := leads_rounds w (max k n) (begin w s shutdown world)
  have empty := schedule.emptied (later.isFinished finished)
  refine ⟨max k n, Nat.le_max_left k n, ?_⟩
  simp [Crew.running, Crew.tasks, empty.ready, empty.sleeping]

theorem rounds_running (w : Workload ω τ) (s : ExecutorSettings) (world : ω) (n : Nat) :
    (rounds w n (begin w s .never world)).stopped = false :=
  (leadsPunctually_rounds w n ⟨rfl, rfl, rfl⟩).2.stopped

/-- As long as nobody requests shutdown, an executor of a fixed number of iterations has no more of
them in flight than it has workers, ends none from outside, however long they take, and when it
returns it has run each of them once to its own end and reports all of them. And it does return,
whoever takes turns in whatever order, if each iteration that it starts ends at some time and it
looks again whenever it would go on. In its own run it does so, and there it returns exactly if
each iteration ends. -/
theorem fixed_number_complete (w : Workload ω τ) (s : ExecutorSettings)
    (fixed : s.kind = .fixedIterations) (shutdown : Shutdown) (world : ω) :
    (∀ h r, Schedule w (begin w s shutdown world) h r → r.stopped = false →
      r.crew.inFlight ≤ max s.workers 1 ∧ w.OwnEnds h ∧
        (r.isFinished = true → Complete s h r.report)) ∧
    (∀ run : Nat → ExecutorRun ω τ, run 0 = begin w s shutdown world → Attended w run →
      (∀ k, (run k).stopped = false) → AllEnd run →
      ∃ k h, Schedule w (begin w s shutdown world) h (run k) ∧
        (run k).isFinished = true ∧ Complete s h (run k).report) ∧
    (Attended w fun n => rounds w n (begin w s shutdown world)) ∧
    ((∃ n, (rounds w n (begin w s .never world)).isFinished = true) ↔
      AllEnd fun n => rounds w n (begin w s .never world)) := by
  refine ⟨fun h r schedule running => ?_, fun run first attended running allEnd => ?_,
    attended_rounds w _, fun ⟨n, finished⟩ => allEnd_of_finished finished, fun allEnd => ?_⟩
  · have inFlight : r.crew.inFlight ≤ max s.workers 1 := by
      rw [← mostLeases_of_iterations fixed, schedule.inFlight_eq]
      exact schedule.held_le
    exact ⟨inFlight, (schedule.unhurried fixed running).own, schedule.complete fixed running⟩
  · obtain ⟨k, finished⟩ := exists_finished fixed first attended running allEnd
    obtain ⟨h, schedule⟩ := exists_schedule first attended k
    exact ⟨k, h, schedule, finished, schedule.complete fixed (running k) finished⟩
  · exact exists_finished fixed rfl (attended_rounds w _) (rounds_running w s world) allEnd

/-- Three iterations over two workers are all run, and one of them fails. -/
theorem fixed_number_complete_threeByTwo :
    ∃ k h, Schedule evenSucceed (begin evenSucceed threeByTwo .never ()) h
        (rounds evenSucceed k (begin evenSucceed threeByTwo .never ())) ∧
      (rounds evenSucceed k (begin evenSucceed threeByTwo .never ())).isFinished = true ∧
      Complete threeByTwo h
        (rounds evenSucceed k (begin evenSucceed threeByTwo .never ())).report := by
  obtain ⟨-, returns, attended, exactly⟩ :=
    fixed_number_complete evenSucceed threeByTwo rfl .never ()
  have allEnd := exactly.mp ⟨_, evenRun_counts.1⟩
  exact returns _ rfl attended (rounds_running evenSucceed threeByTwo ()) allEnd

end ExecutorRun

end LoadHarness
