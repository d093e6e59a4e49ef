import Mathlib
import LoadHarness.Metrics.Basic

/-!
# What recordings add up to

Every series takes the recordings that concern it, one after the other, and for every series
but one the order of these makes no difference. The exception are the named rates: they stand
in the order in which their names were first used, and it is only this order that depends on
the order of the recordings.
-/

namespace LoadHarness

namespace Rate

instance : RightCommutative observe where
  right_comm r one other := by
    cases one <;> cases other <;> rfl

/-- The rate of a list of observations. -/
def ofList (hits : List Bool) : Rate := hits.foldl observe .empty

theorem ofList_snoc (hits : List Bool) (hit : Bool) :
    ofList (hits ++ [hit]) = (ofList hits).observe hit :=
  List.foldl_concat ..

theorem ofList_perm {hits hits' : List Bool} (perm : hits.Perm hits') :
    ofList hits = ofList hits' :=
  perm.foldl_eq Rate.empty

end Rate

namespace Trend

/-- Buckets are filled in any order. -/
theorem insert_comm (a b : Nat) (buckets : List (Nat × Nat)) :
    insert a (insert b buckets) = insert b (insert a buckets) := by
  induction buckets with
  | nil =>
      rcases Nat.lt_trichotomy a b with less | same | more
      · simp [insert, less, Nat.lt_asymm less, Nat.ne_of_gt less]
      · simp [same]
      · simp [insert, more, Nat.lt_asymm more, Nat.ne_of_gt more]
  | cons bucket rest ih => grind [insert]

instance : RightCommutative record where
  right_comm t one other := by
    simp only [record, insert_comm]

theorem count_insert (low : Nat) (buckets : List (Nat × Nat)) :
    count ⟨insert low buckets⟩ = count ⟨buckets⟩ + 1 := by
  induction buckets with
  | nil => rfl
  | cons bucket rest ih =>
      simp only [count] at ih
      simp only [insert]
      split
      · simp only [count, List.foldr_cons]
        omega
      · split
        · simp only [count, List.foldr_cons]
          omega
        · simp only [count, List.foldr_cons, ih]
          omega

@[simp] theorem count_record (t : Trend) (latency : Duration) :
    (t.record latency).count = t.count + 1 :=
  count_insert _ t.buckets

/-- The aggregates of a trend count its latencies, also if there are none. -/
@[simp] theorem count_summary (t : Trend) : t.summary.count = t.count := by
  obtain ⟨buckets⟩ := t
  cases buckets with
  | nil => rfl
  | cons first rest =>
      obtain ⟨last, found⟩ := List.getLast?_isSome.mpr (List.cons_ne_nil first rest)
        |> Option.isSome_iff_exists.mp
      simp [summary, found]

end Trend

/-! ## Names in the order of their first use -/

/-- Each name once, in the order of first use. -/
def firstUses (names : List String) : List String :=
  names.foldl (fun seen name => if name ∈ seen then seen else seen ++ [name]) []

theorem firstUses_snoc (names : List String) (name : String) :
    firstUses (names ++ [name]) =
      if name ∈ firstUses names then firstUses names else firstUses names ++ [name] :=
  List.foldl_concat ..

theorem mem_firstUses {name : String} {names : List String} :
    name ∈ firstUses names ↔ name ∈ names := by
  induction names using List.reverseRecOn with
  | nil => rfl
  | append_singleton names last ih =>
      rw [firstUses_snoc, List.mem_append, List.mem_singleton, ← ih]
      split
      · next seen =>
        constructor
        · exact .inl
        · rintro (old | rfl)
          · exact old
          · exact seen
      · rw [List.mem_append, List.mem_singleton]

theorem nodup_firstUses (names : List String) : (firstUses names).Nodup := by
  induction names using List.reverseRecOn with
  | nil => exact List.nodup_nil
  | append_singleton names last ih =>
      rw [firstUses_snoc]
      split
      · exact ih
      · next unseen =>
        rw [List.nodup_append]
        refine ⟨ih, List.nodup_singleton last, ?_⟩
        intro name mem other here same
        rw [List.mem_singleton] at here
        exact unseen (here ▸ same ▸ mem)

theorem firstUses_perm {names names' : List String} (perm : names.Perm names') :
    (firstUses names).Perm (firstUses names') := by
  apply (List.perm_ext_iff_of_nodup (nodup_firstUses _) (nodup_firstUses _)).mpr
  intro name
  rw [mem_firstUses, mem_firstUses, perm.mem_iff]

namespace NamedRates

/-- An observation under a name concerns the rate of that name. -/
theorem observe_map {names : List String} (nodup : names.Nodup) (rate : String → Rate)
    (name : String) (hit : Bool) :
    observe (names.map fun n => (n, rate n)) name hit =
      if name ∈ names then
        names.map fun n => (n, if n = name then (rate n).observe hit else rate n)
      else names.map (fun n => (n, rate n)) ++ [(name, Rate.empty.observe hit)] := by
  induction names with
  | nil => rfl
  | cons first rest ih =>
      obtain ⟨new, nodup⟩ := List.nodup_cons.mp nodup
      simp only [List.map_cons, observe, ih nodup]
      by_cases here : first = name
      · subst here
        have others : ∀ n ∈ rest, ¬n = first := fun n mem same => new (same ▸ mem)
        have same : rest.map (fun n => (n, if n = first then (rate n).observe hit else rate n)) =
            rest.map fun n => (n, rate n) :=
          List.map_congr_left fun n mem => by rw [if_neg (others n mem)]
        simp [same]
      · have later : name ∈ first :: rest ↔ name ∈ rest := by
          simp [List.mem_cons, Ne.symm here]
        simp only [if_neg here, later]
        split <;> rfl

/-- The rates of a list of checks, each with its name. -/
def ofChecks (checks : List (String × Bool)) : NamedRates :=
  checks.foldl (fun rates check => rates.observe check.1 check.2) []

/-- The outcomes of the checks of one name. -/
def outcomesOf (name : String) (checks : List (String × Bool)) : List Bool :=
  (checks.filter (·.1 = name)).map (·.2)

theorem outcomesOf_snoc (name : String) (checks : List (String × Bool)) (check : String × Bool) :
    outcomesOf name (checks ++ [check]) =
      outcomesOf name checks ++ if check.1 = name then [check.2] else [] := by
  rw [outcomesOf, List.filter_append, List.map_append]
  by_cases here : check.1 = name <;> simp [outcomesOf, here]

theorem outcomesOf_eq_nil {name : String} {checks : List (String × Bool)}
    (unused : name ∉ checks.map (·.1)) : outcomesOf name checks = [] := by
  rw [outcomesOf, List.map_eq_nil_iff, List.filter_eq_nil_iff]
  intro check mem here
  exact unused (List.mem_map.mpr ⟨check, mem, of_decide_eq_true here⟩)

/-- Every name that was used has the rate of its own checks. -/
theorem ofChecks_eq (checks : List (String × Bool)) :
    ofChecks checks =
      (firstUses (checks.map (·.1))).map fun name => (name, .ofList (outcomesOf name checks)) := by
  induction checks using List.reverseRecOn with
  | nil => rfl
  | append_singleton checks check ih =>
      have last : ofChecks (checks ++ [check]) = (ofChecks checks).observe check.1 check.2 :=
        List.foldl_concat ..
      rw [last, ih, observe_map (nodup_firstUses _), List.map_append, List.map_singleton,
        firstUses_snoc]
      split
      · apply List.map_congr_left
        intro name mem
        by_cases here : check.1 = name
        · rw [if_pos here.symm, outcomesOf_snoc, if_pos here, Rate.ofList_snoc]
        · rw [if_neg (Ne.symm here), outcomesOf_snoc, if_neg here, List.append_nil]
      · next unseen =>
        have nothing := outcomesOf_eq_nil (mt mem_firstUses.mpr unseen)
        rw [List.map_append, List.map_singleton, outcomesOf_snoc, if_pos rfl, nothing]
        congr 1
        apply List.map_congr_left
        intro name mem
        have other : check.1 ≠ name := fun same => unseen (same ▸ mem)
        rw [outcomesOf_snoc, if_neg other, List.append_nil]

theorem names_ofChecks (checks : List (String × Bool)) :
    (ofChecks checks).map (·.1) = firstUses (checks.map (·.1)) := by
  rw [ofChecks_eq, List.map_map]
  exact List.map_id _

/-- Apart from the order of names, the order of checks makes no difference. -/
theorem ofChecks_perm {checks checks' : List (String × Bool)} (perm : checks.Perm checks')
    (names : firstUses (checks.map (·.1)) = firstUses (checks'.map (·.1))) :
    ofChecks checks = ofChecks checks' := by
  rw [ofChecks_eq, ofChecks_eq, names]
  apply List.map_congr_left
  intro name _
  have same : (outcomesOf name checks).Perm (outcomesOf name checks') :=
    (perm.filter _).map _
  rw [Rate.ofList_perm same]

end NamedRates

/-! ## What a recording concerns -/

namespace Recording

/-- The latency of an exchange. -/
def latency? : Recording → Option Duration
  | .request _ _ _ latency => some latency
  | _ => none

/-- Whether an exchange failed. -/
def requestFailed? : Recording → Option Bool
  | .request _ status expected _ => some (status != expected)
  | _ => none

/-- Whether a step failed. -/
def stepFailed? : Recording → Option Bool
  | .step _ failed => some failed
  | _ => none

/-- The name of a check and whether it was passed. -/
def check? : Recording → Option (String × Bool)
  | .check name passed => some (name, passed)
  | _ => none

/-- Whether an iteration completed. -/
def completed? : Recording → Option Bool
  | .iteration completed => some completed
  | _ => none

/-- How many starts were dropped. -/
def dropped? : Recording → Option Nat
  | .dropped count => some count
  | _ => none

end Recording

/-! ## Series -/

attribute [ext] Series

namespace Series

/-- One count, kept apart for each of two outcomes. -/
def tick (outcome : Bool) (n : Nat) (b : Bool) : Nat := if b = outcome then n + 1 else n

/-- Adds to a counter. -/
def bump (n count : Nat) : Nat := (n + count) % counterModulus

instance (outcome : Bool) : RightCommutative (tick outcome) where
  right_comm n one other := by
    simp only [tick]
    split <;> split <;> rfl

instance : RightCommutative bump where
  right_comm n one other := by
    simp only [bump, Nat.mod_add_mod]
    rw [Nat.add_right_comm]

/-- A series takes a recording if it concerns it, and only then. -/
structure Takes {α β : Type} (field : Series → β) (concern : Recording → Option α)
    (take : β → α → β) : Prop where
  record : ∀ s r, field (s.record r) = (concern r).toList.foldl take (field s)

namespace Takes

section

variable {α β : Type} {field : Series → β} {concern : Recording → Option α} {take : β → α → β}

theorem ofRecordings (takes : Takes field concern take) (rs : List Recording) :
    field (ofRecordings rs) = (rs.filterMap concern).foldl take (field .empty) := by
  induction rs using List.reverseRecOn with
  | nil => rfl
  | append_singleton rs r ih =>
      have last : Series.ofRecordings (rs ++ [r]) = (Series.ofRecordings rs).record r :=
        List.foldl_concat ..
      rw [last, takes.record, ih, List.filterMap_append, List.foldl_append]
      cases told : concern r <;> simp [told]

/-- If what is taken can be taken in any order, recordings can be made in any order. -/
theorem perm [RightCommutative take] (takes : Takes field concern take)
    {rs rs' : List Recording} (perm : rs.Perm rs') :
    field (Series.ofRecordings rs) = field (Series.ofRecordings rs') := by
  rw [takes.ofRecordings, takes.ofRecordings]
  exact (perm.filterMap _).foldl_eq _

end

theorem durations : Takes (·.durations) Recording.latency? Trend.record where
  record s r := by
    cases r with
    | iteration completed => cases completed <;> rfl
    | request | check | step | dropped | active | allocated => rfl

theorem requestFailures : Takes (·.requestFailures) Recording.requestFailed? Rate.observe where
  record s r := by
    cases r with
    | iteration completed => cases completed <;> rfl
    | request | check | step | dropped | active | allocated => rfl

theorem stepErrors : Takes (·.stepErrors) Recording.stepFailed? Rate.observe where
  record s r := by
    cases r with
    | iteration completed => cases completed <;> rfl
    | request | check | step | dropped | active | allocated => rfl

theorem checks :
    Takes (·.checks) (fun r => r.check?.map (·.2)) Rate.observe where
  record s r := by
    cases r with
    | iteration completed => cases completed <;> rfl
    | request | check | step | dropped | active | allocated => rfl

theorem checksByName :
    Takes (·.checksByName) Recording.check? fun rates check => rates.observe check.1 check.2 where
  record s r := by
    cases r with
    | iteration completed => cases completed <;> rfl
    | request | check | step | dropped | active | allocated => rfl

theorem completed : Takes (·.completed) Recording.completed? (tick true) where
  record s r := by
    cases r with
    | iteration completed => cases completed <;> rfl
    | request | check | step | dropped | active | allocated => rfl

theorem failed : Takes (·.failed) Recording.completed? (tick false) where
  record s r := by
    cases r with
    | iteration completed => cases completed <;> rfl
    | request | check | step | dropped | active | allocated => rfl

theorem dropped : Takes (·.dropped) Recording.dropped? bump where
  record s r := by
    cases r with
    | iteration completed => cases completed <;> rfl
    | request | check | step | dropped | active | allocated => rfl

end Takes

/-- The named rates of recordings are those of the checks among them. -/
theorem checksByName_ofRecordings (rs : List Recording) :
    (ofRecordings rs).checksByName = .ofChecks (rs.filterMap Recording.check?) :=
  Takes.checksByName.ofRecordings rs

/-- Recordings that are made in another order add up to the same series, if the names of
checks still come up in the same order. -/
theorem ofRecordings_perm {rs rs' : List Recording} (perm : rs.Perm rs')
    (names : (ofRecordings rs).checksByName.map (·.1) =
      (ofRecordings rs').checksByName.map (·.1)) :
    ofRecordings rs = ofRecordings rs' := by
  have durations := Takes.durations.perm perm
  have requestFailures := Takes.requestFailures.perm perm
  have stepErrors := Takes.stepErrors.perm perm
  have checks := Takes.checks.perm perm
  have completed := Takes.completed.perm perm
  have failed := Takes.failed.perm perm
  have dropped := Takes.dropped.perm perm
  have checksByName : (ofRecordings rs).checksByName = (ofRecordings rs').checksByName := by
    rw [checksByName_ofRecordings, checksByName_ofRecordings, NamedRates.names_ofChecks,
      NamedRates.names_ofChecks] at names
    rw [checksByName_ofRecordings, checksByName_ofRecordings]
    exact NamedRates.ofChecks_perm (perm.filterMap _) names
  exact Series.ext durations requestFailures stepErrors checks checksByName completed failed dropped

end Series

namespace RunMetrics

@[simp] theorem errorSeries_recordAll (m : RunMetrics) (rs : List Recording) :
    (m.recordAll rs).errorSeries = m.errorSeries := by
  induction rs generalizing m with
  | nil => rfl
  | cons r rest ih => exact ih (m.record r)

/-- The snapshot of recordings, made from the start. -/
theorem snapshot_recordAll (errorSeries : String) (rs : List Recording) :
    ((fresh errorSeries).recordAll rs).snapshot =
      (Series.ofRecordings rs).snapshot errorSeries := by
  rw [snapshot, series_recordAll, errorSeries_recordAll]
  rfl

end RunMetrics

end LoadHarness
