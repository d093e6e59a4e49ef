import LoadHarness.LoadTest.Basic

/-!
# The default thresholds of a run

A profile without thresholds bounds slow requests, failed requests and failed steps. The
series of failed steps has a name of its own, and a profile that passed its checks does not
give it the name of a series that every run has.
-/

namespace LoadHarness

namespace Threshold

/-- One in ten thousand, the bound on failures. -/
def failureBound : Binary64 := .ofDecimal false 1 (-4)

/-- The default threshold of a rate. -/
def failureLimit (series : String) : Threshold :=
  ⟨series, "rate<0.0001", ⟨.rate, .less, failureBound⟩⟩

/-- The default threshold of latencies, in milliseconds. -/
def latencyLimit : Threshold :=
  ⟨"http_req_duration", "p(95)<100",
    ⟨.percentile (.ofDecimal false 95 0), .less, .ofDecimal false 100 0⟩⟩

/-- The thresholds of a profile that names none. -/
def defaults (errorSeries : String) : List Threshold :=
  [latencyLimit, failureLimit "http_req_failed", failureLimit errorSeries]

end Threshold

namespace Expression

/-! ## The default expressions are read as they are meant -/

/-- The numbers of the default expressions are within the ranges that are allowed. -/
theorem default_numbers :
    Threshold.failureBound.isFinite = true ∧
      (Binary64.ofDecimal false 100 0).isFinite = true ∧
      Aggregation.isPercentage (.ofDecimal false 95 0) = true := by
  decide +kernel

theorem bound_failureBound :
    bound? ['0', '.', '0', '0', '0', '1'] = some Threshold.failureBound := by
  have read : Binary64.ofChars? ['0', '.', '0', '0', '0', '1'] = some Threshold.failureBound := rfl
  rw [bound?, read, Option.filter_some, if_pos default_numbers.1]

theorem bound_hundred : bound? ['1', '0', '0'] = some (.ofDecimal false 100 0) := by
  have read : Binary64.ofChars? ['1', '0', '0'] = some (.ofDecimal false 100 0) := rfl
  rw [bound?, read, Option.filter_some, if_pos default_numbers.2.1]

theorem ofText_failureLimit :
    ofText? "rate<0.0001" = .ok ⟨.rate, .less, Threshold.failureBound⟩ := by
  have compact : ("rate<0.0001".toList.filter fun c => !isBlank c) =
      ['r', 'a', 't', 'e', '<', '0', '.', '0', '0', '0', '1'] := by decide
  have split : Comparison.split? ['<', '0', '.', '0', '0', '0', '1'] =
      some (.less, ['0', '.', '0', '0', '0', '1']) := rfl
  have aggregation : Aggregation.ofChars? ['r', 'a', 't', 'e'] = .ok .rate := rfl
  rw [ofText?, compact]
  simp [ofCompact?, startsComparison, split, aggregation, bound_failureBound]

theorem ofText_latencyLimit :
    ofText? "p(95)<100" =
      .ok ⟨.percentile (.ofDecimal false 95 0), .less, .ofDecimal false 100 0⟩ := by
  have compact : ("p(95)<100".toList.filter fun c => !isBlank c) =
      ['p', '(', '9', '5', ')', '<', '1', '0', '0'] := by decide
  have split : Comparison.split? ['<', '1', '0', '0'] = some (.less, ['1', '0', '0']) := rfl
  have aggregation : Aggregation.ofChars? ['p', '(', '9', '5', ')'] =
      .ok (.percentile (.ofDecimal false 95 0)) := by
    have inside : Binary64.ofChars? (trimChars ['9', '5']) = some (.ofDecimal false 95 0) := rfl
    simp [Aggregation.ofChars?, Aggregation.percentileInside?, inside, default_numbers.2.2]
  rw [ofText?, compact]
  simp [ofCompact?, startsComparison, split, aggregation, bound_hundred]

end Expression

namespace ScenarioSettings

variable {s : ScenarioSettings}

theorem fault_eq_none : s.fault? = none ↔
    isBlankText s.city = false ∧ ¬ (s.page = 0 ∨ s.limit = 0) ∧
      isBlankText s.errorSeries = false ∧ s.errorSeries ∉ builtinSeries := by
  rw [fault?]
  split
  · next blankCity => simp [blankCity]
  split
  · next zeroPage => simp [zeroPage]
  split
  · next blank => simp [blank]
  split
  · next builtin => simp_all
  · next own => simp_all

/-- The error series has a name of its own. -/
theorem errorSeries_not_builtin (fine : s.fault? = none) : s.errorSeries ∉ builtinSeries :=
  (fault_eq_none.mp fine).2.2.2

end ScenarioSettings

/-- A profile without faults has scenario settings without faults. -/
theorem Profile.scenario_fine {p : Profile} (fine : p.fault? = none) :
    p.scenario.fault? = none := by
  cases fault : p.scenario.fault? with
  | none => rfl
  | some fault =>
      simp only [Profile.fault?, fault] at fine
      cases target : p.target.fault? with
      | none => simp [target] at fine
      | some => simp [target] at fine

namespace Threshold

variable {s : ScenarioSettings}

theorem defaults_eq (fine : s.fault? = none) :
    ThresholdTable.defaults s.errorSeries =
      [("http_req_duration", ["p(95)<100"]), ("http_req_failed", ["rate<0.0001"]),
        (s.errorSeries, ["rate<0.0001"])] := by
  have own := ScenarioSettings.errorSeries_not_builtin fine
  simp only [ScenarioSettings.builtinSeries, List.mem_cons, not_or] at own
  have first : ("http_req_duration" == s.errorSeries) = false := by simpa using Ne.symm own.1
  have second : ("http_req_failed" == s.errorSeries) = false := by simpa using Ne.symm own.2.1
  simp [ThresholdTable.defaults, ThresholdTable.ofEntries, ThresholdTable.put, first, second]

/-- The default thresholds of checked settings are read as one limit on latencies and two on
failures. -/
theorem forRun_defaults (fine : s.fault? = none) :
    forRun? (.fresh s.errorSeries) (ThresholdTable.defaults s.errorSeries) =
      .ok (defaults s.errorSeries) := by
  have own := ScenarioSettings.errorSeries_not_builtin fine
  simp only [ScenarioSettings.builtinSeries, List.mem_cons, List.not_mem_nil, not_or] at own
  have kind : Series.kindOf s.errorSeries s.errorSeries = some .rate := by
    simp [Series.kindOf, own]
  have rate (series : String) :
      ofSource? series .rate "rate<0.0001" = .ok (failureLimit series) := by
    have trimmed : trimBlank "rate<0.0001" = "rate<0.0001" := by decide_cbv
    simp [ofSource?, Expression.ofText_failureLimit, Aggregation.supports, trimmed, failureLimit]
  have latency : ofSource? "http_req_duration" .trend "p(95)<100" = .ok latencyLimit := by
    have trimmed : trimBlank "p(95)<100" = "p(95)<100" := by decide_cbv
    simp [ofSource?, Expression.ofText_latencyLimit, Aggregation.supports, trimmed, latencyLimit]
  have failed : Series.kindOf s.errorSeries "http_req_failed" = some .rate := rfl
  have duration : Series.kindOf s.errorSeries "http_req_duration" = some .trend := rfl
  simp [forRun?, ofTable?, ofRow?, RunMetrics.kindOf, RunMetrics.fresh, defaults_eq fine,
    kind, failed, duration, rate, latency]
  rfl

end Threshold

/-- The load test of a profile with default thresholds. -/
def LoadTest.ofDefaults (p : Profile) : LoadTest :=
  { profile := p
    executor := p.executor
    watched := true
    thresholds := Threshold.defaults p.scenario.errorSeries }

/-- A checked profile with default thresholds makes a load test. -/
theorem LoadTest.ofProfile_of_defaults {p : Profile} (fine : p.fault? = none)
    (defaults : p.thresholds = .defaults p.scenario.errorSeries) :
    ofProfile p = .ok (ofDefaults p) := by
  have read := Threshold.forRun_defaults (Profile.scenario_fine fine)
  rw [← defaults] at read
  rw [ofProfile, fine]
  simp only [read]
  rfl

/-- The default threshold of a rate holds if the rate is below the bound. -/
theorem Threshold.judge_failureLimit {m : RunMetrics} {series : String} {rate : Rate}
    (named : m.rate? series = some rate) :
    (judge m (failureLimit series)).passed = rate.ratio.lt failureBound := by
  simp only [judge, failureLimit, RunMetrics.observe, named, Option.map_some, Option.getD_some,
    Comparison.holds]

/-- The rate that the error series reads is that of failed steps. -/
theorem RunMetrics.rate_errorSeries {s : ScenarioSettings} (fine : s.fault? = none)
    {m : RunMetrics} (named : m.errorSeries = s.errorSeries) :
    m.rate? s.errorSeries = some m.series.stepErrors := by
  have own := ScenarioSettings.errorSeries_not_builtin fine
  simp only [ScenarioSettings.builtinSeries, List.mem_cons, List.not_mem_nil, not_or] at own
  simp [rate?, Series.rate?, named, own]

end LoadHarness
