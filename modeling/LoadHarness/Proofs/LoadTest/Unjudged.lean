import LoadHarness.Proofs.LoadTest.Verdict
import LoadHarness.Proofs.Profile.Order

/-!
# Runs that nobody judges

A source that names no thresholds gets the default ones. Whether it names any is asked of its
rows and not of their expressions: rows without expressions keep the default ones away and give
no thresholds of their own, and a run without thresholds passes whatever happened in it.
-/

namespace LoadHarness

/-- A table has no expressions if none of its rows has. -/
theorem ThresholdTable.expressions_eq_nil_iff {table : ThresholdTable} :
    table.expressions = [] ↔ ∀ row ∈ table, row.2 = [] := by
  simp only [expressions, List.flatMap_eq_nil_iff, List.map_eq_nil_iff]

namespace LoadTest

variable {p : Profile} {t : LoadTest}

/-- A load test has as many thresholds as its profile has expressions. -/
theorem length_thresholds (made : ofProfile p = .ok t) :
    t.thresholds.length = p.thresholds.expressions.length := by
  obtain ⟨-, -, -, -, read⟩ := ofProfile_eq made
  exact (Threshold.reads_ofTable read).length_eq.symm

theorem thresholds_eq_nil_iff (made : ofProfile p = .ok t) :
    t.thresholds = [] ↔ ∀ row ∈ p.thresholds, row.2 = [] := by
  rw [← ThresholdTable.expressions_eq_nil_iff, ← List.length_eq_zero_iff,
    length_thresholds made, List.length_eq_zero_iff]

section Reports

variable {σ : Type} (document : String) (period : Period)
  (r : ExecutorRun (RunState σ) Pending)

/-- A report has a verdict for each threshold. -/
theorem verdicts_eq_nil_iff :
    (t.reportOf document period r).verdicts = [] ↔ t.thresholds = [] :=
  List.map_eq_nil_iff

/-- Without thresholds every run passes. -/
theorem passed_of_no_thresholds (unjudged : t.thresholds = []) :
    (t.reportOf document period r).passed = true := by
  simp only [reportOf, unjudged, List.map_nil, List.all_nil]

end Reports

end LoadTest

namespace Profile

namespace Loading

/-- The rows of thresholds that a source names, in the order in which they are handed over. -/
def namedRows? (l : Loading) (order : Setting.Order) : Option ThresholdTable :=
  l.settings?.toOption.bind fun (_, s) =>
    (ofSettings (s.arrangedAt "thresholds" order)).toOption.map (·.thresholds)

variable {l : Loading} {order : Setting.Order} {p : Profile} {t : LoadTest}

/-- The thresholds of a profile are the rows that its source names, or the default ones if it
names none. -/
theorem namedRows_of_profile (ok : l.profile? order = .ok p) :
    ∃ rows, l.namedRows? order = some rows ∧
      p.thresholds = if rows = [] then .defaults p.scenario.errorSeries else rows := by
  obtain ⟨source, s, q, settings_eq, read, rfl, -⟩ := profile_eq_ok.mp ok
  refine ⟨q.thresholds, ?_, ?_⟩
  · rw [namedRows?, settings_eq]
    simp only [Except.toOption, Option.bind_some, read, Option.map_some]
  · rcases eq_or_ne q.thresholds [] with none_named | named
    · simp only [withThresholds, none_named, List.isEmpty_nil, if_true]
    · rw [withThresholds_of_ne named, if_neg named]

/-- A source of a load test gives no thresholds exactly if it names rows and each of them is
without expressions; where it names no rows, the default thresholds apply. Without thresholds
no report on any run has a verdict, and every report says that the run passed. -/
theorem unjudged_iff (ok : l.profile? order = .ok p) (made : LoadTest.ofProfile p = .ok t) :
    ∃ rows, l.namedRows? order = some rows ∧
      (rows = [] → t.thresholds = Threshold.defaults p.scenario.errorSeries) ∧
      (t.thresholds = [] ↔ rows ≠ [] ∧ ∀ row ∈ rows, row.2 = []) ∧
      ∀ (σ : Type) (document : String) (period : LoadTest.Period)
        (r : ExecutorRun (RunState σ) Pending),
        ((t.reportOf document period r).verdicts = [] ↔ t.thresholds = []) ∧
          (t.thresholds = [] → (t.reportOf document period r).passed = true) := by
  obtain ⟨rows, named, thresholds_eq⟩ := namedRows_of_profile ok
  refine ⟨rows, named, ?_, ?_, fun σ document period r =>
    ⟨LoadTest.verdicts_eq_nil_iff document period r,
      LoadTest.passed_of_no_thresholds document period r⟩⟩
  · rintro rfl
    exact LoadTest.thresholds_of_defaults made thresholds_eq
  · by_cases none_named : rows = []
    · -- the default thresholds are three
      rw [if_pos none_named] at thresholds_eq
      rw [LoadTest.thresholds_of_defaults made thresholds_eq]
      simp only [Threshold.defaults, List.cons_ne_nil, none_named, ne_eq, not_true_eq_false,
        false_and]
    · rw [if_neg none_named] at thresholds_eq
      rw [LoadTest.thresholds_eq_nil_iff made, thresholds_eq]
      exact (and_iff_right none_named).symm

/-- One iteration, and a row of thresholds without expressions. -/
def emptyRow : Loading :=
  ofText "[executor]\nkind = \"fixed-iterations\"\n\n[thresholds]\nchecks = []\n"

theorem namedRows_emptyRow : emptyRow.namedRows? .ascending = some [("checks", [])] := by
  decide +kernel

/-- It makes a load test, in whose run against a target that fails every step one step fails. -/
theorem exists_emptyRow :
    ∃ p t, emptyRow.profile? .ascending = .ok p ∧ LoadTest.ofProfile p = .ok t ∧
      (t.execute LoadTest.failing () .never).isFinished = true ∧
      (t.execute LoadTest.failing () .never).crew.world.metrics.series.stepErrors = ⟨1, 0⟩ := by
  have ran : ((emptyRow.profile? .ascending).toOption.bind fun p =>
      (LoadTest.ofProfile p).toOption.map fun t =>
        ((t.execute LoadTest.failing () .never).isFinished,
          (t.execute LoadTest.failing () .never).crew.world.metrics.series.stepErrors)) =
      some (true, ⟨1, 0⟩) := by
    decide +kernel
  simp only [Option.bind_eq_some_iff, Option.map_eq_some_iff, toOption_eq_some,
    Prod.mk.injEq] at ran
  obtain ⟨p, ok, t, made, finished, steps⟩ := ran
  exact ⟨p, t, ok, made, finished, steps⟩

theorem unjudged_iff_emptyRow :
    ∃ p t, emptyRow.profile? .ascending = .ok p ∧ LoadTest.ofProfile p = .ok t ∧
      t.thresholds = [] := by
  obtain ⟨p, t, ok, made, -⟩ := exists_emptyRow
  obtain ⟨rows, named, -, unjudged, -⟩ := unjudged_iff ok made
  obtain rfl : rows = [("checks", [])] :=
    Option.some.inj (named.symm.trans namedRows_emptyRow)
  exact ⟨p, t, ok, made, unjudged.mpr ⟨List.cons_ne_nil _ _, List.forall_mem_singleton.mpr rfl⟩⟩

/-- A text that is accepted makes a load test without thresholds, and the run whose only step
fails is reported as passed. -/
theorem emptyRow_passes :
    ∃ p t, ofDocument "[executor]\nkind = \"fixed-iterations\"\n\n[thresholds]\nchecks = []\n" =
        .ok p ∧ LoadTest.ofProfile p = .ok t ∧ t.thresholds = [] ∧
      (t.execute LoadTest.failing () .never).isFinished = true ∧
      (t.execute LoadTest.failing () .never).crew.world.metrics.series.stepErrors = ⟨1, 0⟩ ∧
      ∀ document period,
        (t.reportOf document period (t.execute LoadTest.failing () .never)).passed = true := by
  obtain ⟨p, t, ok, made, finished, steps⟩ := exists_emptyRow
  obtain ⟨rows, named, thresholds_eq⟩ := namedRows_of_profile ok
  obtain rfl : rows = [("checks", [])] :=
    Option.some.inj (named.symm.trans namedRows_emptyRow)
  have unjudged : t.thresholds = [] := by
    rw [LoadTest.thresholds_eq_nil_iff made, thresholds_eq, if_neg (List.cons_ne_nil _ _)]
    exact List.forall_mem_singleton.mpr rfl
  exact ⟨p, t, (profile_ofText _).symm.trans ok, made, unjudged, finished, steps,
    fun document period => LoadTest.passed_of_no_thresholds document period _ unjudged⟩

end Loading

end Profile

end LoadHarness
