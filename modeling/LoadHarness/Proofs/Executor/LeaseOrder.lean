import LoadHarness.Proofs.Executor.Leases

/-!
# What is told of the leases of a pool

A worker is taken in one step, in which the number of active workers is told. A lease ends in two:
first it is told how many workers are active without this one, then the worker is given back. The
ends of several leases may overlap, and what is told at each of them counts the workers that the
others have still to give back. So once no lease is held, what was told last is how many ends of
other leases were under way, and nothing is told when they are over.
-/

namespace LoadHarness

/-- A step in the life of a lease, which takes them in this order. -/
inductive LeaseStep where
  /-- A free worker is taken and put to work, and this is told. -/
  | take
  /-- It is told that the worker stops. -/
  | stop
  /-- The worker is given back. -/
  | give
  deriving DecidableEq

namespace LeaseStep

variable {xs : List LeaseStep} {x : LeaseStep} {most : Nat}

/-- The leases whose worker was taken and has not stopped. -/
def held (xs : List LeaseStep) : Nat := xs.count .take - xs.count .stop

/-- The leases whose worker stopped and has not been given back. -/
def leaving (xs : List LeaseStep) : Nat := xs.count .stop - xs.count .give

/-! ## What each step counts -/

theorem held_take (stops : xs.count .stop ≤ xs.count .take) :
    held (xs ++ [.take]) = held xs + 1 := by
  simp only [held, List.count_append, List.count_cons_self, List.count_nil, Nat.zero_add, ne_eq,
    reduceCtorEq, not_false_eq_true, List.count_cons_of_ne, Nat.add_zero]
  omega

@[simp] theorem held_stop (xs : List LeaseStep) : held (xs ++ [.stop]) = held xs - 1 := by
  simp [held, Nat.sub_add_eq]

@[simp] theorem held_give (xs : List LeaseStep) : held (xs ++ [.give]) = held xs := by
  simp [held]

@[simp] theorem leaving_take (xs : List LeaseStep) : leaving (xs ++ [.take]) = leaving xs := by
  simp [leaving]

theorem leaving_stop (gives : xs.count .give ≤ xs.count .stop) :
    leaving (xs ++ [.stop]) = leaving xs + 1 := by
  simp only [leaving, List.count_append, List.count_cons_self, List.count_nil, Nat.zero_add, ne_eq,
    reduceCtorEq, not_false_eq_true, List.count_cons_of_ne, Nat.add_zero]
  omega

@[simp] theorem leaving_give (xs : List LeaseStep) : leaving (xs ++ [.give]) = leaving xs - 1 := by
  simp [leaving, Nat.sub_add_eq]

/-! ## Ends that overlap -/

/-- Whenever a worker stops, at most so many others stopped before and were not given back. -/
def OverlapAtMost (most : Nat) (xs : List LeaseStep) : Prop :=
  ∀ ys, ys ++ [.stop] <+: xs → leaving ys ≤ most

theorem overlapAtMost_nil : OverlapAtMost most [] := fun ys begins => by simp at begins

/-- Only a stop can overlap with others. -/
theorem OverlapAtMost.snoc (few : OverlapAtMost most xs) (last : x = .stop → leaving xs ≤ most) :
    OverlapAtMost most (xs ++ [x]) := by
  intro ys begins
  rcases List.prefix_concat_iff.mp begins with whole | earlier
  · obtain ⟨rfl, stop⟩ := List.append_inj' whole rfl
    exact last (List.singleton_inj.mp stop).symm
  · exact few ys earlier

end LeaseStep

open LeaseStep (held leaving OverlapAtMost held_take held_stop held_give leaving_take leaving_stop
  leaving_give)

/-- Leases took their steps in this order, which left the pool like this, and this was told last.
To the pool one lease is like another, so only a held lease has to be there for a worker to stop,
and a worker that stopped to be given back. -/
inductive LeaseOrder (preAllocated size : Nat) : List LeaseStep → Pool → Notice → Prop where
  | opened : LeaseOrder preAllocated size [] (.ofSizes preAllocated size)
      (Pool.ofSizes preAllocated size).openNotice
  | take {xs p told} (order : LeaseOrder preAllocated size xs p told) (free : p.isFull = false) :
      LeaseOrder preAllocated size (xs ++ [.take]) p.take.lease p.take.lease.leaseNotice
  | stop {xs p told} (order : LeaseOrder preAllocated size xs p told) (some_held : 0 < held xs) :
      LeaseOrder preAllocated size (xs ++ [.stop]) p p.stopNotice
  | give {xs p told} (order : LeaseOrder preAllocated size xs p told)
      (some_leaving : 0 < leaving xs) : LeaseOrder preAllocated size (xs ++ [.give]) p.give told

namespace LeaseOrder

variable {preAllocated size : Nat} {xs : List LeaseStep} {p : Pool} {told : Notice}

/-! ## What every order keeps -/

/-- The pool counts the leases that are held and those that have to give back their workers. -/
structure InStep (xs : List LeaseStep) (p : Pool) : Prop where
  stops : xs.count .stop ≤ xs.count .take
  gives : xs.count .give ≤ xs.count .stop
  taken : p.taken = held xs + leaving xs
  bounded : p.taken ≤ p.max

theorem inStep (order : LeaseOrder preAllocated size xs p told) : InStep xs p := by
  induction order with
  | opened => exact ⟨Nat.le_refl 0, Nat.le_refl 0, rfl, Nat.zero_le _⟩
  | @take xs p told order free ih =>
      obtain ⟨stops, gives, taken, -⟩ := ih
      refine ⟨?_, ?_, ?_, Nat.lt_of_not_le (of_decide_eq_false free)⟩
      · simpa using Nat.le_succ_of_le stops
      · simpa using gives
      · change p.taken + 1 = _
        rw [held_take stops, leaving_take]
        omega
  | @stop xs p told order some_held ih =>
      obtain ⟨stops, gives, taken, bounded⟩ := ih
      refine ⟨?_, ?_, ?_, bounded⟩
      · simpa using Nat.succ_le_of_lt (Nat.lt_of_sub_pos some_held)
      · simpa using Nat.le_succ_of_le gives
      · rw [held_stop, leaving_stop gives]
        omega
  | @give xs p told order some_leaving ih =>
      obtain ⟨stops, gives, taken, bounded⟩ := ih
      refine ⟨?_, ?_, ?_, Nat.le_trans (Nat.sub_le _ _) bounded⟩
      · simpa using stops
      · simpa using Nat.succ_le_of_lt (Nat.lt_of_sub_pos some_leaving)
      · change p.taken - 1 = _
        rw [held_give, leaving_give]
        omega

/-- What begins an order is an order. -/
theorem before {ys : List LeaseStep} (order : LeaseOrder preAllocated size xs p told)
    (begins : ys <+: xs) : ∃ q told', LeaseOrder preAllocated size ys q told' := by
  have snoc {xs x p told} (whole : LeaseOrder preAllocated size (xs ++ [x]) p told)
      (begins : ys <+: xs ++ [x])
      (earlier : ys <+: xs → ∃ q told', LeaseOrder preAllocated size ys q told') :
      ∃ q told', LeaseOrder preAllocated size ys q told' := by
    rcases List.prefix_concat_iff.mp begins with rfl | begins
    · exact ⟨p, told, whole⟩
    · exact earlier begins
  induction order with
  | opened =>
      obtain rfl := List.prefix_nil.mp begins
      exact ⟨_, _, opened⟩
  | take order free ih => exact snoc (.take order free) begins ih
  | stop order some_held ih => exact snoc (.stop order some_held) begins ih
  | give order some_leaving ih => exact snoc (.give order some_leaving) begins ih

/-- The workers that are set aside are at every moment as they were told last. -/
theorem told_allocated (order : LeaseOrder preAllocated size xs p told) :
    ∃ active, told = .workers active p.allocated := by
  induction order with
  | opened | take | stop => exact ⟨_, rfl⟩
  | give order some_leaving ih => exact ih

/-- Before the first take nothing was taken, so nothing was given back. -/
theorem eq_nil (order : LeaseOrder preAllocated size xs p told) (none_taken : .take ∉ xs) :
    xs = [] := by
  obtain ⟨stops, gives, -, -⟩ := order.inStep
  rw [List.count_eq_zero.mpr none_taken] at stops
  have stops := List.count_eq_zero.mp (Nat.le_zero.mp stops)
  have gives := List.count_eq_zero.mp (Nat.le_zero.mp (List.count_eq_zero.mpr stops ▸ gives))
  refine List.eq_nil_iff_forall_not_mem.mpr fun x mem => ?_
  cases x with
  | take => exact none_taken mem
  | stop => exact stops mem
  | give => exact gives mem

theorem told_untaken (order : LeaseOrder preAllocated size xs p told) (none_taken : .take ∉ xs) :
    told = .workers 0 p.allocated := by
  have nothing := order.eq_nil none_taken
  cases order with
  | opened => rfl
  | take | stop | give => simp at nothing

/-- Once no lease is held, what was told last is how many others were leaving when the last worker
stopped. -/
theorem told_unheld (order : LeaseOrder preAllocated size xs p told) (some_taken : .take ∈ xs)
    (unheld : held xs = 0) :
    ∃ ys zs, xs = ys ++ .stop :: zs ∧ (∀ z ∈ zs, z = .give) ∧
      told = .workers (leaving ys) p.allocated := by
  induction order with
  | opened => cases some_taken
  | @take xs p told order free ih =>
      rw [held_take order.inStep.stops] at unheld
      cases unheld
  | @stop xs p told order some_held ih =>
      have taken := order.inStep.taken
      rw [held_stop] at unheld
      refine ⟨xs, [], rfl, nofun, ?_⟩
      -- the last lease that was held is the one that stops, so the others taken are leaving
      have others : p.taken - 1 = leaving xs := by omega
      rw [Pool.stopNotice, others]
  | @give xs p told order some_leaving ih =>
      rw [held_give] at unheld
      have before : .take ∈ xs := by simpa using some_taken
      obtain ⟨ys, zs, rfl, gives, told_last⟩ := ih before unheld
      refine ⟨ys, zs ++ [.give], by simp, fun z mem => ?_, told_last⟩
      rcases List.mem_append.mp mem with earlier | last
      · exact gives z earlier
      · exact List.mem_singleton.mp last

/-- Once every lease has ended, in whatever order all of them took their steps: no worker is taken,
and what was told last are the workers that are set aside and as many active ones as other leases
were leaving when the last worker stopped. After that all of them were given back, together with
the last one, and nothing was told. -/
theorem told_at_rest (preAllocated size : Nat) (xs : List LeaseStep) (p : Pool) (told : Notice)
    (order : LeaseOrder preAllocated size xs p told) (some_taken : .take ∈ xs)
    (unheld : held xs = 0) (none_leaving : leaving xs = 0) :
    p.taken = 0 ∧ ∃ ys zs, xs = ys ++ .stop :: zs ∧ zs = List.replicate (leaving ys + 1) .give ∧
      told = .workers (leaving ys) p.allocated := by
  obtain ⟨stops, gives, taken, -⟩ := order.inStep
  refine ⟨by rw [taken, unheld, none_leaving], ?_⟩
  obtain ⟨ys, zs, rfl, all_gives, told_last⟩ := order.told_unheld some_taken unheld
  refine ⟨ys, zs, rfl, List.eq_replicate_iff.mpr ⟨?_, all_gives⟩, told_last⟩
  -- no more is given back after the last stop than is leaving then, the stopped worker included
  obtain ⟨q, _, before⟩ := order.before (List.prefix_append ys (.stop :: zs))
  have gives_before := before.inStep.gives
  have no_stop : zs.count .stop = 0 :=
    List.count_eq_zero.mpr fun mem => LeaseStep.noConfusion (all_gives _ mem)
  have given : zs.count .give = zs.length :=
    List.count_eq_length.mpr fun z mem => (all_gives z mem).symm
  simp only [leaving, List.count_append, List.count_cons_self, no_stop, Nat.zero_add, ne_eq,
    reduceCtorEq, not_false_eq_true, List.count_cons_of_ne, given] at none_leaving gives ⊢
  omega

/-- Two leases that end at the same time. -/
def overlapped : List LeaseStep := [.take, .take, .stop, .stop, .give, .give]

/-- Each of them tells that the other is still active. -/
theorem overlapped_order :
    LeaseOrder 0 2 overlapped { max := 2, taken := 0, allocated := 2, peak := 2 }
      (.workers 1 2) := by
  have both_held : LeaseOrder 0 2 [.take, .take] _ _ := opened.take rfl |>.take rfl
  have both_stopped := both_held.stop (by decide) |>.stop (by decide)
  exact both_stopped.give (by decide) |>.give (by decide)

/-- One active worker was told last, and both were given back. -/
theorem told_at_rest_overlapped :
    ∃ ys zs, overlapped = ys ++ .stop :: zs ∧ zs = List.replicate (leaving ys + 1) .give ∧
      Notice.workers 1 2 = .workers (leaving ys) 2 :=
  (told_at_rest 0 2 overlapped _ _ overlapped_order (by decide) rfl rfl).2

/-- Iterations that take ten milliseconds, in a world that is what was told last. -/
def naps : Workload Notice Unit where
  resume := fun _ _ told state =>
    match state with
    | none => (told, .wait (.ofMillis 10) ())
    | some _ => (told, .finish .completed)
  abandon := fun _ _ told _ => told
  notice := fun _ _ told => told
  waits := 1

/-- A third iteration waits for one of two workers. -/
def threeForTwo : ExecutorSettings :=
  { ExecutorSettings.defaults with kind := .fixedIterations, iterations := 3, workers := 2 }

/-- Shutdown is requested when the first two iterations end. -/
def interrupted : ExecutorRun Notice Unit :=
  .execute naps threeForTwo (.after (.ofMillis 10)) .dropped

/-- It may be told last that a worker is active when none is taken. So it is if an executor waits
for a worker and two iterations end at once: the first one passes its worker on, the second one
tells that this worker is active, and the executor gives it back since shutdown is requested. -/
theorem told_active_at_rest :
    (¬ ∀ preAllocated size xs p told, LeaseOrder preAllocated size xs p told → .take ∈ xs →
      held xs = 0 → leaving xs = 0 → told = .workers 0 p.allocated) ∧
    interrupted.isFinished = true ∧ interrupted.crew.pool.taken = 0 ∧
      interrupted.crew.world = .workers 1 2 := by
  refine ⟨fun none_active => ?_, by decide +kernel⟩
  have told := none_active 0 2 _ _ _ overlapped_order (by decide) rfl rfl
  exact absurd told (by decide)

/-! ## Orders by what they count -/

/-- An order leaves so many leases held and so many leaving, and no more than so many others were
leaving when a worker stopped. -/
def Reaches (preAllocated size most holds leaves : Nat) (p : Pool) (told : Notice) : Prop :=
  ∃ xs, LeaseOrder preAllocated size xs p told ∧ held xs = holds ∧ leaving xs = leaves ∧
    OverlapAtMost most xs

namespace Reaches

variable {most holds leaves : Nat}

theorem opened : Reaches preAllocated size most 0 0 (.ofSizes preAllocated size)
    (Pool.ofSizes preAllocated size).openNotice :=
  ⟨[], .opened, rfl, rfl, LeaseStep.overlapAtMost_nil⟩

theorem take (reached : Reaches preAllocated size most holds leaves p told)
    (free : p.isFull = false) :
    Reaches preAllocated size most (holds + 1) leaves p.take.lease p.take.lease.leaseNotice := by
  obtain ⟨xs, order, rfl, rfl, few⟩ := reached
  exact ⟨xs ++ [.take], order.take free, held_take order.inStep.stops, leaving_take xs,
    few.snoc nofun⟩

theorem stop (reached : Reaches preAllocated size most (holds + 1) leaves p told)
    (few_leave : leaves ≤ most) :
    Reaches preAllocated size most holds (leaves + 1) p p.stopNotice := by
  obtain ⟨xs, order, some_held, rfl, few⟩ := reached
  have fewer_held : held (xs ++ [.stop]) = holds := by
    rw [held_stop, some_held, Nat.add_sub_cancel]
  exact ⟨xs ++ [.stop], order.stop (some_held ▸ Nat.succ_pos holds), fewer_held,
    leaving_stop order.inStep.gives, few.snoc fun _ => few_leave⟩

theorem give (reached : Reaches preAllocated size most holds (leaves + 1) p told) :
    Reaches preAllocated size most holds leaves p.give told := by
  obtain ⟨xs, order, rfl, some_leaving, few⟩ := reached
  have fewer_leaving : leaving (xs ++ [.give]) = leaves := by
    rw [leaving_give, some_leaving, Nat.add_sub_cancel]
  exact ⟨xs ++ [.give], order.give (some_leaving ▸ Nat.succ_pos leaves), held_give xs,
    fewer_leaving, few.snoc nofun⟩

/-- A worker that is leaving may go to another lease as it is. -/
theorem pass (reached : Reaches preAllocated size most holds (leaves + 1) p told) :
    Reaches preAllocated size most (holds + 1) leaves p.lease p.lease.leaseNotice := by
  have ⟨xs, order, _, some_leaving, _⟩ := reached
  have taken := order.inStep.taken
  have bounded := order.inStep.bounded
  have free : p.give.isFull = false := by
    refine decide_eq_false (Nat.not_le_of_lt ?_)
    change p.taken - 1 < p.max
    omega
  have same : p.give.take = p := by
    have back : p.taken - 1 + 1 = p.taken := by omega
    simp only [Pool.take, Pool.give, back]
  simpa only [same] using reached.give.take free

/-- Once no lease is held, no more active workers were told last than others were leaving when a
worker stopped. -/
theorem told_unheld (reached : Reaches preAllocated size most 0 leaves p told) :
    ∃ active, told = .workers active p.allocated ∧ active ≤ most := by
  obtain ⟨xs, order, unheld, -, few⟩ := reached
  by_cases some_taken : .take ∈ xs
  · obtain ⟨ys, zs, rfl, -, told_last⟩ := order.told_unheld some_taken unheld
    exact ⟨_, told_last, few ys ⟨zs, by simp⟩⟩
  · exact ⟨0, order.told_untaken some_taken, Nat.zero_le _⟩

end Reaches

end LeaseOrder

end LoadHarness
