import LoadHarness.Proofs.LoadTest.Balance

/-!
# The registry and the snapshot

A run counts everything twice: in the registry under labels, and in the series that a snapshot
shows. The same recordings write both, but other people read them: an exposition is for whoever
scrapes it, a snapshot for the thresholds. The two agree after every recording.
-/

namespace LoadHarness

open Exposition

namespace Counts

/-- The sum of the counts whose keys fit. -/
def sumOf {κ : Type} (fits : κ → Prop) [DecidablePred fits] (counts : Counts κ) : Nat :=
  ((counts.filter fun count => fits count.1).map (·.2)).sum

variable {κ : Type} [DecidableEq κ]

/-! ## Counting once more -/

theorem sumOf_bump (fits : κ → Prop) [DecidablePred fits] (counts : Counts κ) (key : κ) :
    (counts.bump key).sumOf fits = counts.sumOf fits + if fits key then 1 else 0 := by
  induction counts with
  | nil => by_cases fit : fits key <;> simp [bump, sumOf, fit]
  | cons first rest ih =>
      obtain ⟨k, n⟩ := first
      simp only [sumOf] at ih
      by_cases here : k = key
      · subst here
        by_cases fit : fits k
        · simp [bump, sumOf, fit]
          omega
        · simp [bump, sumOf, fit]
      · by_cases fit : fits k
        · simp [bump, sumOf, here, fit, ih]
          omega
        · simp [bump, sumOf, here, fit, ih]

theorem get_bump (counts : Counts κ) (key other : κ) :
    (counts.bump key).get other = counts.get other + if key = other then 1 else 0 := by
  induction counts with
  | nil => by_cases here : key = other <;> simp [bump, get, here]
  | cons first rest ih =>
      obtain ⟨k, n⟩ := first
      by_cases here : k = key
      · subst here
        by_cases found : k = other <;> simp [bump, get, found]
      · by_cases found : k = other
        · subst found
          simp [bump, get, here, Ne.symm here]
        · simp [bump, get, here, found, ih]

/-- Keys with labels of their own are counted in samples of their own. -/
theorem samples_bump {labels : κ → List Label} (injective : Function.Injective labels)
    (counts : Counts κ) (key : κ) :
    (counts.bump key).samples labels = (counts.samples labels).bump (labels key) := by
  induction counts with
  | nil => rfl
  | cons first rest ih =>
      obtain ⟨k, n⟩ := first
      simp only [samples] at ih
      by_cases here : k = key <;> simp [bump, samples, injective.eq_iff, here, ih]

end Counts

/-! ## Labels -/

namespace Registry

theorem checkLabels_injective : Function.Injective checkLabels := by
  rintro ⟨name, passed⟩ ⟨other, otherwise⟩ same
  cases passed <;> cases otherwise <;> simp_all [checkLabels]

theorem requestLabels_injective : Function.Injective requestLabels := by
  rintro ⟨step, status⟩ ⟨other, otherwise⟩ same
  simp only [requestLabels, List.cons.injEq, Prod.mk.injEq, true_and, and_true] at same
  rw [Nat.repr_inj.mp same.1, same.2]

theorem iterationLabels_injective : Function.Injective iterationLabels := by
  decide

theorem stepLabels_injective (errorSeries : String) :
    Function.Injective (stepLabels errorSeries) := by
  rintro ⟨step, failed⟩ ⟨other, otherwise⟩ same
  cases failed <;> cases otherwise <;> simp_all [stepLabels]

/-- The number of latencies in every sample. -/
def latencyCounts (r : Registry) : Counts (List Label) :=
  r.latencySamples.map fun (labels, b) => (labels, b.count)

theorem latencyCounts_request (r : Registry) (step : String) (status expected : Nat)
    (latency : Duration) :
    (r.record (.request step status expected latency)).latencyCounts =
      r.latencyCounts.bump [("step", step)] := by
  simp only [record, latencyCounts, latencySamples]
  induction r.latencies with
  | nil => rfl
  | cons first rest ih =>
      obtain ⟨key, buckets⟩ := first
      by_cases here : key = step
      · simp [observeLatency, Counts.bump, here, LatencyBuckets.observe]
      · simp [observeLatency, Counts.bump, here] at ih ⊢
        exact ih

end Registry

/-! ## Rates by name -/

namespace NamedRates

/-- The rate of a name; one without observations has an empty rate. -/
def rateOf (rates : NamedRates) (name : String) : Rate := (rates.lookup name).getD .empty

theorem rateOf_observe (rates : NamedRates) (name other : String) (hit : Bool) :
    (rates.observe name hit).rateOf other =
      if name = other then (rates.rateOf other).observe hit else rates.rateOf other := by
  induction rates with
  | nil =>
      by_cases here : name = other
      · simp [observe, rateOf, here]
      · simp [observe, rateOf, here, List.lookup_cons, beq_eq_false_iff_ne.mpr (Ne.symm here)]
  | cons first rest ih =>
      obtain ⟨key, rate⟩ := first
      simp only [rateOf] at ih
      by_cases here : key = name
      · subst here
        by_cases found : key = other
        · simp [observe, rateOf, found]
        · simp [observe, rateOf, found, List.lookup_cons, beq_eq_false_iff_ne.mpr (Ne.symm found)]
      · by_cases found : key = other
        · subst found
          simp [observe, rateOf, here, Ne.symm here]
        · simp [observe, rateOf, here, List.lookup_cons, beq_eq_false_iff_ne.mpr (Ne.symm found),
            ih]

theorem names_observe (rates : NamedRates) (name : String) (hit : Bool) :
    (rates.observe name hit).map (·.1) =
      if name ∈ rates.map (·.1) then rates.map (·.1) else rates.map (·.1) ++ [name] := by
  induction rates with
  | nil => rfl
  | cons first rest ih =>
      obtain ⟨key, rate⟩ := first
      by_cases here : key = name
      · simp [observe, here]
      · simp only [observe, if_neg here, List.map_cons, ih, List.mem_cons, Ne.symm here, false_or]
        split <;> rfl

theorem nodup_observe {rates : NamedRates} (nodup : (rates.map (·.1)).Nodup) (name : String)
    (hit : Bool) : ((rates.observe name hit).map (·.1)).Nodup := by
  rw [names_observe]
  split
  · exact nodup
  · next unused => exact List.concat_eq_append ▸ nodup.concat unused

/-- Among names that stand once each, the rate of a name is the one that stands beside it. -/
theorem rateOf_of_mem {rates : NamedRates} (nodup : (rates.map (·.1)).Nodup) {name : String}
    {rate : Rate} (mem : (name, rate) ∈ rates) : rates.rateOf name = rate := by
  obtain ⟨before, after, rfl⟩ := List.append_of_mem mem
  have others : ∀ check ∈ before, (name != check.1) = true := by
    intro check early
    rw [List.map_append, List.nodup_append] at nodup
    rw [bne_iff_ne]
    exact fun same => nodup.2.2 check.1 (List.mem_map_of_mem early) name (by simp) same.symm
  rw [rateOf, List.lookup_eq_some_iff.mpr ⟨before, after, rfl, others⟩, Option.getD_some]

end NamedRates

/-! ## Agreement -/

/-- A registry and a snapshot agree on what both of them count. -/
structure Registry.Agrees (r : Registry) (s : Snapshot) : Prop where
  requests : r.requestSamples.sumOf (fun _ => True) = s.requests
  latencies : r.latencyCounts.sumOf (fun _ => True) = s.durations.count
  perStep : ∀ step, r.requestSamples.sumOf (("step", step) ∈ ·) =
    r.latencyCounts.sumOf (("step", step) ∈ ·)
  names : (s.checksByName.map (·.1)).Nodup
  passes : ∀ name, r.checkSamples.get [("check", name), ("outcome", "pass")] =
    (s.checksByName.rateOf name).hits
  fails : ∀ name, r.checkSamples.get [("check", name), ("outcome", "fail")] =
    (s.checksByName.rateOf name).misses
  errors : (r.stepSamples s.errorSeries).sumOf (("outcome", "error") ∈ ·) = s.stepErrors.hits
  oks : (r.stepSamples s.errorSeries).sumOf (("outcome", "ok") ∈ ·) = s.stepErrors.misses
  completed : r.iterationSamples.get [("outcome", "completed")] = s.completed
  failed : r.iterationSamples.get [("outcome", "failed")] = s.failed
  dropped : r.dropped = s.dropped

namespace RunMetrics

/-- The registry of a run agrees with its snapshot. -/
def Agrees (m : RunMetrics) : Prop := m.registry.Agrees m.snapshot

variable {m : RunMetrics}

theorem agrees_fresh (errorSeries : String) : (fresh errorSeries).Agrees where
  requests := rfl
  latencies := rfl
  perStep _ := rfl
  names := List.nodup_nil
  passes _ := rfl
  fails _ := rfl
  errors := rfl
  oks := rfl
  completed := rfl
  failed := rfl
  dropped := rfl

theorem Agrees.request (agrees : m.Agrees) (step : String) (status expected : Nat)
    (latency : Duration) : (m.record (.request step status expected latency)).Agrees := by
  have samples : (m.registry.record (.request step status expected latency)).requestSamples =
      m.registry.requestSamples.bump (Registry.requestLabels (step, status)) :=
    Counts.samples_bump Registry.requestLabels_injective m.registry.requests (step, status)
  have counts := m.registry.latencyCounts_request step status expected latency
  refine { agrees with requests := ?_, latencies := ?_, perStep := ?_ }
  · have before := agrees.requests
    rw [record, samples, Counts.sumOf_bump, before]
    simp [snapshot, Series.snapshot, Series.requests, Series.record]
  · have before := agrees.latencies
    rw [record, counts, Counts.sumOf_bump, before]
    simp [snapshot, Series.snapshot, Series.record]
  · intro other
    rw [record, samples, counts, Counts.sumOf_bump, Counts.sumOf_bump, agrees.perStep]
    simp [Registry.requestLabels]

theorem Agrees.check (agrees : m.Agrees) (name : String) (passed : Bool) :
    (m.record (.check name passed)).Agrees := by
  have samples : (m.registry.record (.check name passed)).checkSamples =
      m.registry.checkSamples.bump (Registry.checkLabels (name, passed)) :=
    Counts.samples_bump Registry.checkLabels_injective m.registry.checks (name, passed)
  have rates : (m.record (.check name passed)).snapshot.checksByName =
      m.snapshot.checksByName.observe name passed := rfl
  refine { agrees with names := ?_, passes := ?_, fails := ?_ }
  · exact NamedRates.nodup_observe agrees.names name passed
  · intro other
    rw [rates, record, samples, Counts.get_bump, NamedRates.rateOf_observe, agrees.passes]
    by_cases here : name = other <;> cases passed <;>
      simp [Registry.checkLabels, Rate.observe, here]
  · intro other
    rw [rates, record, samples, Counts.get_bump, NamedRates.rateOf_observe, agrees.fails]
    by_cases here : name = other <;> cases passed <;>
      simp [Registry.checkLabels, Rate.observe, here]

theorem Agrees.step (agrees : m.Agrees) (step : String) (failed : Bool) :
    (m.record (.step step failed)).Agrees := by
  have samples : (m.registry.record (.step step failed)).stepSamples m.errorSeries =
      (m.registry.stepSamples m.errorSeries).bump
        (Registry.stepLabels m.errorSeries (step, failed)) :=
    Counts.samples_bump (Registry.stepLabels_injective m.errorSeries) m.registry.stepErrors
      (step, failed)
  have series : (m.record (.step step failed)).snapshot.errorSeries = m.errorSeries := rfl
  have errors : (m.registry.stepSamples m.errorSeries).sumOf (("outcome", "error") ∈ ·) =
      m.snapshot.stepErrors.hits := agrees.errors
  have oks : (m.registry.stepSamples m.errorSeries).sumOf (("outcome", "ok") ∈ ·) =
      m.snapshot.stepErrors.misses := agrees.oks
  refine { agrees with errors := ?_, oks := ?_ }
  · rw [series, record, samples, Counts.sumOf_bump, errors]
    cases failed <;>
      simp [Registry.stepLabels, snapshot, Series.snapshot, Series.record, Rate.observe]
  · rw [series, record, samples, Counts.sumOf_bump, oks]
    cases failed <;>
      simp [Registry.stepLabels, snapshot, Series.snapshot, Series.record, Rate.observe]

theorem Agrees.iteration (agrees : m.Agrees) (completed : Bool) :
    (m.record (.iteration completed)).Agrees := by
  have samples : (m.registry.record (.iteration completed)).iterationSamples =
      m.registry.iterationSamples.bump (Registry.iterationLabels completed) :=
    Counts.samples_bump Registry.iterationLabels_injective m.registry.iterations completed
  cases completed with
  | true =>
      refine { agrees with completed := ?_, failed := ?_ }
      · rw [record, samples, Counts.get_bump, agrees.completed]
        rfl
      · rw [record, samples, Counts.get_bump, agrees.failed]
        rfl
  | false =>
      refine { agrees with completed := ?_, failed := ?_ }
      · rw [record, samples, Counts.get_bump, agrees.completed]
        rfl
      · rw [record, samples, Counts.get_bump, agrees.failed]
        rfl

theorem Agrees.dropped (agrees : m.Agrees) (count : Nat) :
    (m.record (.dropped count)).Agrees := by
  refine { agrees with dropped := ?_ }
  exact congrArg (fun n => (n + count) % counterModulus) (Registry.Agrees.dropped agrees)

/-- Every recording is entered on both sides. -/
theorem Agrees.record (agrees : m.Agrees) (r : Recording) : (m.record r).Agrees := by
  cases r with
  | request step status expected latency => exact agrees.request step status expected latency
  | check name passed => exact agrees.check name passed
  | step step failed => exact agrees.step step failed
  | iteration completed => exact agrees.iteration completed
  | dropped count => exact agrees.dropped count
  | active | allocated => exact { agrees with }

theorem Agrees.recordAll (agrees : m.Agrees) (rs : List Recording) : (m.recordAll rs).Agrees := by
  induction rs generalizing m with
  | nil => exact agrees
  | cons r rest ih => exact ih (agrees.record r)

/-- Whatever a run records, its registry and its snapshot agree, and each check of the snapshot
has the passes and fails of its samples. -/
theorem registry_agrees (errorSeries : String) (rs : List Recording) :
    let m := (fresh errorSeries).recordAll rs
    m.registry.Agrees m.snapshot ∧
      ∀ check ∈ m.snapshot.checksByName,
        m.registry.checkSamples.get [("check", check.1), ("outcome", "pass")] = check.2.hits ∧
        m.registry.checkSamples.get [("check", check.1), ("outcome", "fail")] =
          check.2.misses := by
  intro m
  have agrees : m.registry.Agrees m.snapshot := (agrees_fresh errorSeries).recordAll rs
  refine ⟨agrees, fun check mem => ?_⟩
  have found := NamedRates.rateOf_of_mem agrees.names mem
  exact ⟨found ▸ agrees.passes check.1, found ▸ agrees.fails check.1⟩

/-- A check that is passed once and failed once, between other recordings. -/
theorem registry_agrees_twoChecks :
    let m := (fresh "step_errors").recordAll
      [.request "login" 200 200 (.ofMillis 3), .check "login status" true, .step "login" false,
        .check "login status" false, .iteration false, .dropped 2]
    m.registry.checkSamples.get [("check", "login status"), ("outcome", "pass")] = 1 ∧
      m.registry.checkSamples.get [("check", "login status"), ("outcome", "fail")] = 1 := by
  intro m
  have listed : ("login status", Rate.mk 1 1) ∈ m.snapshot.checksByName :=
    List.mem_singleton.mpr rfl
  exact (registry_agrees _ _).2 _ listed

end RunMetrics

end LoadHarness
