import LoadHarness.Proofs.Executor.Arrivals
import LoadHarness.Proofs.Executor.Staffing

/-!
# Leases and the marks of a pool

Every started iteration holds a lease of a worker until it ends, however it ends. The pool keeps
two marks: the most leases that were held at once, and the workers set aside, which are never
fewer. Both are moved at a start and at nothing else, and a start is dropped exactly if as many
leases are held as there are workers.
-/

namespace LoadHarness

namespace History

/-- The leases that are held: those of the iterations that were started and have not ended. -/
def held (h : History) : Nat := (starts h).length - (endings h).length

/-- The largest number of leases that were held right after a start, zero before the first. -/
structure Peak (h : History) (n : Nat) : Prop where
  bound : ∀ k i, k ++ [.started i] <+: h → held (k ++ [.started i]) ≤ n
  reached : n = 0 ∨ ∃ k i, k ++ [.started i] <+: h ∧ held (k ++ [.started i]) = n

namespace Peak

variable {h g : History} {n : Nat}

theorem nil : Peak [] 0 where
  bound k i begins := by simp at begins
  reached := .inl rfl

/-- Only a start moves the peak. -/
theorem other (peak : Peak h n) {e : Event} (other : ∀ i, e ≠ .started i) :
    Peak (h ++ [e]) n where
  bound k i begins := by
    rcases List.prefix_concat_iff.mp begins with whole | earlier
    · exact absurd (List.append_inj_right' whole rfl) (by simpa using (other i).symm)
    · exact peak.bound k i earlier
  reached := peak.reached.imp_right fun ⟨k, i, begins, held⟩ =>
    ⟨k, i, begins.trans (List.prefix_append h [e]), held⟩

theorem quiet (peak : Peak h n) (noStart : starts g = []) : Peak (h ++ g) n := by
  induction g generalizing h with
  | nil => simpa using peak
  | cons e rest ih =>
      have split : starts [e] = [] ∧ starts rest = [] := by
        rw [← List.append_eq_nil_iff, ← starts_append]
        exact noStart
      have next : Peak (h ++ [e]) n := by
        refine peak.other ?_
        rintro i rfl
        cases split.1
      simpa using ih next split.2

theorem start (peak : Peak h n) (i : Nat) :
    Peak (h ++ [.started i]) (max n (held (h ++ [.started i]))) where
  bound k j begins := by
    rcases List.prefix_concat_iff.mp begins with whole | earlier
    · rw [whole]
      exact Nat.le_max_right _ _
    · exact Nat.le_trans (peak.bound k j earlier) (Nat.le_max_left _ _)
  reached := by
    rcases Nat.le_total n (held (h ++ [.started i])) with more | fewer
    · rw [Nat.max_eq_right more]
      exact .inr ⟨h, i, List.prefix_refl _, rfl⟩
    · rw [Nat.max_eq_left fewer]
      exact peak.reached.imp_right fun ⟨k, j, begins, held⟩ =>
        ⟨k, j, begins.trans (List.prefix_append h _), held⟩

/-- No more leases were held at once than iterations were started. -/
theorem le_starts (peak : Peak h n) : n ≤ (starts h).length := by
  rcases peak.reached with rfl | ⟨k, i, begins, rfl⟩
  · exact Nat.zero_le _
  · exact Nat.le_trans (Nat.sub_le _ _) (begins.filterMap _).length_le

end Peak

end History

namespace Crew

variable {ω τ : Type} {w : Workload ω τ} {c c' : Crew ω τ} {h g : History}
  {preAllocated size : Nat}

/-- Whoever is in flight holds a lease. -/
theorem Accounted.held_eq (account : Accounted c h) : h.held = c.tasks.length := by
  have places := account.places.length_eq
  simp only [List.length_append, List.length_map, running, List.length_range] at places
  rw [History.held, account.starts, List.length_range]
  omega

/-- Someone waits for a worker, or is being handed one. -/
def Waits (c : Crew ω τ) : Prop := c.wanted = true ∨ c.handed = true

theorem waits_of_release {now : Duration} {e : Ending} (waits : (c.release w now e).Waits) :
    c.Waits := by
  rw [release] at waits
  split at waits
  · next waiting => exact .inl waiting.1
  · exact waits

/-- No iteration begins to wait for a worker in its turn. -/
theorem waits_of_resume {now : Duration} (turn : Resume w now c g c') (waits : c'.Waits) :
    c.Waits := by
  cases turn with
  | @finish t rest world e => exact waits_of_release (c := { c with ready := rest, world }) waits
  | wait | goOn | waitForEver => exact waits

/-- The marks of a pool are in step with the leases. -/
structure Marked (preAllocated size : Nat) (c : Crew ω τ) (h : History) : Prop where
  most : c.pool.max = max size 1
  peak : h.Peak c.pool.peak
  within : c.tasks.length ≤ c.pool.peak
  allocated : c.pool.allocated = max (min preAllocated c.pool.max) c.pool.peak
  /-- Who waits for a worker has seen all of them at work. -/
  waiting : c.Waits → c.pool.peak = c.pool.max
  dropped : 0 < c.dropped → c.pool.peak = c.pool.max

namespace Marked

theorem assemble (w : Workload ω τ) (world : ω) (preAllocated size : Nat) :
    Marked preAllocated size (Crew.assemble w world preAllocated size) [] where
  most := rfl
  peak := .nil
  within := Nat.le_refl 0
  allocated := (Nat.max_zero _).symm
  waiting := by simp [Waits, Crew.assemble, tell]
  dropped := nofun

/-- If every worker is taken, the peak is as high as it can be. -/
theorem peak_of_full (marked : Marked preAllocated size c h) (staffed : Staffed 0 c)
    (full : c.pool.isFull = true) : c.pool.peak = c.pool.max := by
  have full : c.pool.max ≤ c.pool.taken := of_decide_eq_true full
  cases handed : c.handed with
  | true => exact marked.waiting (.inr handed)
  | false =>
      have taken := staffed.taken
      rw [handed, Bool.toNat_false] at taken
      have within := marked.within
      have peak := staffed.peak
      omega

/-! ## What each move does to the marks -/

/-- What starts nothing leaves the marks. -/
theorem keep (marked : Marked preAllocated size c h) (most : c'.pool.max = c.pool.max)
    (peak : c'.pool.peak = c.pool.peak) (allocated : c'.pool.allocated = c.pool.allocated)
    (fewer : c'.tasks.length ≤ c.tasks.length) (waiting : c'.Waits → c.Waits)
    (dropped : c'.dropped = c.dropped) (noStart : History.starts g = []) :
    Marked preAllocated size c' (h ++ g) where
  most := most.trans marked.most
  peak := by
    rw [peak]
    exact marked.peak.quiet noStart
  within := by
    rw [peak]
    exact Nat.le_trans fewer marked.within
  allocated := by rw [allocated, most, peak, marked.allocated]
  waiting wait := by rw [peak, most, marked.waiting (waiting wait)]
  dropped some_drop := by rw [peak, most, marked.dropped (dropped ▸ some_drop)]

/-- A start raises both marks to the number of leases. -/
theorem launch (marked : Marked preAllocated size c h) (staffed : Staffed 0 c')
    (account : Accounted c' (h ++ [.started c.started])) (most : c'.pool.max = c.pool.max)
    (peak : c'.pool.peak = max c.pool.peak c'.pool.taken)
    (allocated : c'.pool.allocated = max c.pool.allocated c'.pool.taken)
    (wanted : c'.wanted = true → c.wanted = true) (handed : c'.handed = true → c.handed = true)
    (dropped : c'.dropped = c.dropped) :
    Marked preAllocated size c' (h ++ [.started c.started]) := by
  have held := account.held_eq
  have taken := staffed.taken
  have bounded := staffed.bounded
  have before := marked.allocated
  -- a worker that is handed over is taken without a lease, but then the peak is reached already
  have leases : max c.pool.peak c'.pool.taken = max c.pool.peak c'.tasks.length := by
    cases given : c'.handed with
    | false =>
        rw [given, Bool.toNat_false] at taken
        rw [taken]
        rfl
    | true =>
        have reached := marked.waiting (.inr (handed given))
        omega
  refine ⟨most.trans marked.most, ?_, ?_, ?_, fun wait => ?_, fun some_drop => ?_⟩
  · rw [peak, leases, ← held]
    exact marked.peak.start _
  · omega
  · rw [allocated, before, most, peak, Nat.max_assoc]
  · have reached := marked.waiting (wait.imp wanted handed)
    omega
  · have reached := marked.dropped (dropped ▸ some_drop)
    omega

theorem release_marks (w : Workload ω τ) (now : Duration) (c : Crew ω τ) (e : Ending) :
    (c.release w now e).pool.max = c.pool.max ∧ (c.release w now e).pool.peak = c.pool.peak ∧
      (c.release w now e).pool.allocated = c.pool.allocated := by
  simp only [release]
  split <;> exact ⟨rfl, rfl, rfl⟩

/-- An end leaves the marks. -/
theorem release (marked : Marked preAllocated size c h) {t : Task τ} {rest : List (Task τ)}
    (ready : c.ready = t :: rest) (world : ω) (now : Duration) (e : Ending)
    (noStart : History.starts g = []) :
    Marked preAllocated size ({ c with ready := rest, world }.release w now e) (h ++ g) := by
  obtain ⟨most, peak, allocated⟩ := release_marks w now { c with ready := rest, world } e
  refine marked.keep most peak allocated ?_ waits_of_release (release_dropped w now _ e) noStart
  rw [release_tasks]
  simp [tasks, ready]

/-- The turn of an iteration leaves the marks. -/
theorem resume {now : Duration} (marked : Marked preAllocated size c h)
    (turn : Resume w now c g c') : Marked preAllocated size c' (h ++ g) := by
  cases turn with
  | @finish t rest world e ready resumed => exact marked.release ready world now e rfl
  | wait ready resumed | waitForEver ready resumed =>
      refine marked.keep rfl rfl rfl (Nat.le_of_eq ?_) id rfl rfl
      rw [(sleep_tasks ready _ _ _).length_eq, tasks_of_ready ready]
      rfl
  | goOn ready resumed past =>
      refine marked.keep rfl rfl rfl ?_ id rfl rfl
      simp [tasks, ready]

/-- Every move keeps the marks in step with the leases. -/
theorem move (marked : Marked preAllocated size c h) (staffed : Staffed 0 c)
    (account : Accounted c h) (move : Move w c g c') :
    Marked preAllocated size c' (h ++ g) := by
  have staffed' := staffed.move move
  have account' := account.move move
  cases move with
  | join | close => exact marked.keep rfl rfl rfl (Nat.le_refl _) id rfl rfl
  | unwant =>
      have pool : c.unwant.pool.max = c.pool.max ∧ c.unwant.pool.peak = c.pool.peak ∧
          c.unwant.pool.allocated = c.pool.allocated := by
        simp only [Crew.unwant]
        split <;> exact ⟨rfl, rfl, rfl⟩
      have waiting : ¬ c.unwant.Waits := by simp [Waits, Crew.unwant]
      exact marked.keep pool.1 pool.2.1 pool.2.2 (Nat.le_refl _) (absurd · waiting) rfl rfl
  | start now free => exact marked.launch staffed' account' rfl rfl rfl id id rfl
  | startHanded now handed =>
      have gone {P : Prop} (never : false = true) : P := absurd never Bool.false_ne_true
      exact marked.launch staffed' account' rfl rfl rfl gone gone rfl
  | drop now full =>
      have reached := marked.peak_of_full staffed full
      exact
        { marked with
          peak := marked.peak.quiet rfl
          dropped := fun _ => reached }
  | want full =>
      have reached := marked.peak_of_full staffed full
      exact
        { marked with
          peak := marked.peak.quiet rfl
          waiting := fun _ => reached }
  | reorder perm =>
      exact marked.keep rfl rfl rfl (Nat.le_of_eq (perm.append_right _).length_eq) id rfl rfl
  | resume turn => exact marked.resume turn
  | abort now ready =>
      rw [abortFirst, ready]
      exact marked.release ready _ now .aborted rfl
  | wake now => exact marked.keep rfl rfl rfl (Nat.le_of_eq (wake_tasks now c).length_eq) id rfl rfl
  | rouse => exact marked.keep rfl rfl rfl (Nat.le_of_eq (rouse_tasks c).length_eq) id rfl rfl

/-- The marks of a crew that was assembled are in step after every chain of moves. -/
theorem assembled {world : ω}
    (chain : Chain (Move w) (Crew.assemble w world preAllocated size) h c) :
    Marked preAllocated size c h := by
  induction chain with
  | nil => exact assemble w world preAllocated size
  | snoc before last ih =>
      have staffed := (Staffed.assemble w world preAllocated size).moves before
      have account := (Accounted.assemble w world preAllocated size).moves before
      exact ih.move staffed account last

end Marked

end Crew

/-- The most leases at once: there is at least one worker. -/
def ExecutorSettings.mostLeases (s : ExecutorSettings) : Nat := max s.poolSizes.2 1

namespace ExecutorRun

variable {ω τ : Type} {w : Workload ω τ} {r r' : ExecutorRun ω τ} {h g : History}
  {s : ExecutorSettings} {shutdown : Shutdown} {world : ω}

/-- At a constant rate there are as many as the settings allow. -/
theorem mostLeases_of_rate (constant : s.kind = .constantArrivalRate) :
    s.mostLeases = max s.maxWorkers 1 := by
  rw [ExecutorSettings.mostLeases, ExecutorSettings.poolSizes, constant]

/-- For a fixed number of iterations all workers are there from the start. -/
theorem mostLeases_of_iterations (fixed : s.kind = .fixedIterations) :
    s.mostLeases = max s.workers 1 := by
  rw [ExecutorSettings.mostLeases, ExecutorSettings.poolSizes, fixed]

theorem Schedule.marked (run : Schedule w (begin w s shutdown world) h r) :
    r.crew.Marked s.poolSizes.1 s.poolSizes.2 h :=
  .assembled run.moves

theorem Schedule.inFlight_eq (run : Schedule w (begin w s shutdown world) h r) :
    r.crew.inFlight = h.held := by
  rw [run.accounted.held_eq, Crew.inFlight, Crew.tasks, List.length_append, List.length_map]

/-- No more leases are held than there are workers. -/
theorem Schedule.held_le (run : Schedule w (begin w s shutdown world) h r) :
    h.held ≤ s.mostLeases := by
  have most : r.crew.pool.max = s.mostLeases := run.marked.most
  have taken := run.staffed.taken
  have bounded := run.staffed.bounded
  rw [run.accounted.held_eq]
  omega

/-! ## Ticks -/

/-- An executor that takes ticks waits for no worker. -/
theorem Turn.not_waits (turn : Turn w r g r')
    (before : ∀ ticker deadline, r.stage = .arriving ticker deadline → ¬ r.crew.Waits)
    {ticker : Ticker} {deadline : Duration} (stage' : r'.stage = .arriving ticker deadline) :
    ¬ r'.crew.Waits := by
  cases turn with
  | tick stage =>
      have waits := before _ _ stage
      simp only [takeTick]
      split <;> exact waits
  | lease stage | leaseHanded stage | want stage | abort stage =>
      rw [stage] at stage'
      cases stage'
  | close | leased | interrupt | hasten | finish | giveUp => cases stage'
  | resume alive resume => exact mt (Crew.waits_of_resume resume) (before _ _ stage')
  | count | reorder | signal | clock => exact before _ _ stage'

theorem Schedule.not_waits (run : Schedule w (begin w s shutdown world) h r) {ticker : Ticker}
    {deadline : Duration} (stage : r.stage = .arriving ticker deadline) : ¬ r.crew.Waits := by
  induction run generalizing ticker deadline with
  | nil => simp [Crew.Waits, begin, Crew.assemble, Crew.tell]
  | snoc _ last ih => exact last.not_waits (fun _ _ stage => ih stage) stage

/-- While ticks are taken, the pool is full exactly if all leases are held. -/
theorem Schedule.isFull_iff (run : Schedule w (begin w s shutdown world) h r) {ticker : Ticker}
    {deadline : Duration} (stage : r.stage = .arriving ticker deadline) :
    r.crew.pool.isFull = true ↔ h.held = s.mostLeases := by
  have taken := run.staffed.taken
  have bounded := run.staffed.bounded
  have most := run.marked.most
  have handed : r.crew.handed = false :=
    Bool.eq_false_iff.mpr fun handed => run.not_waits stage (.inr handed)
  rw [handed, Bool.toNat_false] at taken
  rw [Pool.isFull, decide_eq_true_iff, run.accounted.held_eq, ExecutorSettings.mostLeases]
  omega

/-- At every moment of every run, whoever takes turns: the iterations in flight are the leases that
are held, which are no more than there are workers. A tick is dropped exactly if all of them are
held, and else starts an iteration. The peak is the largest number of leases that were held right
after a start, and the workers set aside are those from the start or as many as the peak. So the
peak is at most the workers set aside, which are at most all workers, and where a start was dropped
the peak is all of them. -/
theorem leases_and_marks (w : Workload ω τ) (s : ExecutorSettings) (shutdown : Shutdown)
    (world : ω) (h : History) (r : ExecutorRun ω τ)
    (run : Schedule w (begin w s shutdown world) h r) :
    r.crew.inFlight = h.held ∧ h.held ≤ s.mostLeases ∧
      (∀ ticker deadline, r.stage = .arriving ticker deadline →
        let next := (r.takeTick w ticker deadline).crew
        if h.held = s.mostLeases then
          next.dropped = r.crew.dropped + 1 ∧ next.started = r.crew.started
        else next.dropped = r.crew.dropped ∧ next.started = r.crew.started + 1) ∧
      h.Peak r.report.peakWorkers ∧
      r.report.allocatedWorkers = max (min s.poolSizes.1 s.mostLeases) r.report.peakWorkers ∧
      r.report.peakWorkers ≤ r.report.allocatedWorkers ∧
      r.report.allocatedWorkers ≤ s.mostLeases ∧
      (0 < r.report.dropped → r.report.peakWorkers = s.mostLeases) := by
  have marked := run.marked
  have most : r.crew.pool.max = s.mostLeases := marked.most
  have allocated : r.report.allocatedWorkers =
      max (min s.poolSizes.1 s.mostLeases) r.report.peakWorkers := most ▸ marked.allocated
  refine ⟨run.inFlight_eq, run.held_le, fun ticker deadline stage => ?_, marked.peak, allocated,
    ?_, ?_, ?_⟩
  · have full := run.isFull_iff stage
    have joined : r.crew.join.pool = r.crew.pool := rfl
    by_cases all : h.held = s.mostLeases
    · simp only [takeTick, joined, full.mpr all, if_pos all, if_true]
      exact ⟨rfl, rfl⟩
    · have free : r.crew.pool.isFull = false := Bool.eq_false_iff.mpr (mt full.mp all)
      simp only [takeTick, joined, free, if_neg all, Bool.false_eq_true, if_false]
      exact ⟨rfl, rfl⟩
  · exact allocated ▸ Nat.le_max_right _ _
  · exact most ▸ run.staffed.allocated
  · exact fun some_drop => (marked.dropped some_drop).trans most

/-- Iterations that complete after ten milliseconds. -/
def steady : Workload Unit Unit where
  resume _ _ _ state := ((), match state with
    | none => .wait (.ofMillis 10) ()
    | some () => .finish .completed)
  abandon _ _ _ _ := ()
  notice _ _ _ := ()
  waits := 1

/-- Four starts in six milliseconds over at most three workers, one of them set aside. -/
def crowdedArrivals : ExecutorSettings :=
  { briefArrivals with preAllocatedWorkers := 1, maxWorkers := 3 }

/-- Three iterations are in flight at once, for the fourth there is no worker, and all three have
given back their leases at the end. -/
theorem leases_and_marks_crowded :
    ∃ h, Schedule steady (begin steady crowdedArrivals .never ()) h
        (execute steady crowdedArrivals .never ()) ∧
      crowdedArrivals.mostLeases = 3 ∧
      (execute steady crowdedArrivals .never ()).report.dropped = 1 ∧
      h.Peak 3 ∧ (execute steady crowdedArrivals .never ()).report.allocatedWorkers = 3 ∧
      h.held = 0 := by
  obtain ⟨h, run⟩ := leads_execute steady crowdedArrivals .never ()
  have three : crowdedArrivals.mostLeases = 3 := mostLeases_of_rate rfl
  have dropped : (execute steady crowdedArrivals .never ()).report.dropped = 1 := by
    decide +kernel
  have nobody : (execute steady crowdedArrivals .never ()).crew.inFlight = 0 := by
    decide +kernel
  obtain ⟨inFlight, -, -, peak, allocated, -, -, full⟩ :=
    leases_and_marks steady crowdedArrivals .never () h _ run
  have full := full (by omega)
  rw [full, three] at peak allocated
  exact ⟨h, run, three, dropped, peak, allocated, inFlight.symm.trans nobody⟩

end ExecutorRun

end LoadHarness
