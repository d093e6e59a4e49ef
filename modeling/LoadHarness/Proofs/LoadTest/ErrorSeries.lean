import Mathlib
import LoadHarness.Proofs.LoadTest.Readings
import LoadHarness.Proofs.Profile.Precedence
import LoadHarness.Proofs.Profile.RoundTrip

/-!
# The series of failed steps

A profile names the series of failed steps in a value, which stays what it is, and bounds it under
a key, which is lower-cased. Where the name is in lower case, the rates that bound it are judged by
the failed steps of the run. Where it is not, no threshold is, and mostly there is no load test.
-/

namespace LoadHarness

open Setting (Reads Slot ofValue readList readTable readText)
open ScenarioSettings (builtinSeries)

variable {document : TomlEntries} {series text : String} {sources : List String}
  {rows table : ThresholdTable} {p q : Profile} {t : Threshold}

/-! ## Thresholds of failed steps -/

/-- Whatever is recorded, the threshold observes the part of the steps that failed. -/
def Threshold.MeasuresSteps (series : String) (t : Threshold) : Prop :=
  ∀ m : RunMetrics, m.errorSeries = series → (judge m t).observed = m.series.stepErrors.ratio

/-- Metrics that tell of one failed step and of one that passed, and of nothing else. -/
def RunMetrics.halfFailed (series : String) : RunMetrics :=
  ⟨series, { Series.empty with stepErrors := ⟨1, 1⟩ }, .empty⟩

/-- One half is nothing that is counted. -/
theorem Rate.half_ratio :
    (⟨1, 1⟩ : Rate).ratio ≠ .zero ∧ (⟨1, 1⟩ : Rate).ratio ≠ .ofNat 0 ∧
      (⟨1, 1⟩ : Rate).ratio ≠ .ofNat 2 := by
  decide +kernel

/-- Only a rate of the series itself tells that half of the steps failed. -/
theorem RunMetrics.observe_halfFailed {name : String} {aggregation : Aggregation}
    (half : (halfFailed series).observe name aggregation = (⟨1, 1⟩ : Rate).ratio) :
    name = series ∧ aggregation = .rate := by
  obtain ⟨zero, nought, two⟩ := Rate.half_ratio
  cases aggregation with
  | average | minimum | maximum | median | percentile => exact absurd half.symm zero
  | rate =>
      refine ⟨?_, rfl⟩
      by_contra other
      have nothing : Rate.empty.ratio = .zero := rfl
      refine zero (half.symm.trans ?_)
      simp only [observe, rate?, Series.rate?, halfFailed, Series.empty, other, if_false]
      split_ifs <;> simp [nothing]
  | count =>
      have counted : (halfFailed series).countOf name = 0 ∨
          (halfFailed series).countOf name = 2 := by
        simp only [countOf, count?, Series.count?, rate?, Series.rate?, halfFailed, Series.empty]
        split_ifs <;> simp_all [Series.requests, Rate.total, Rate.empty, Trend.count, Trend.empty]
      rw [observe] at half
      rcases counted with same | same
      · rw [same] at half
        exact absurd half.symm nought
      · rw [same] at half
        exact absurd half.symm two

/-- A threshold observes the failed steps exactly if it is a rate of their series. -/
theorem Threshold.measuresSteps_iff (own : series ∉ builtinSeries) :
    t.MeasuresSteps series ↔ t.series = series ∧ t.expression.aggregation = .rate := by
  constructor
  · intro measures
    exact RunMetrics.observe_halfFailed (measures (.halfFailed series) rfl)
  · rintro ⟨named, rate⟩ m rfl
    simp only [builtinSeries, List.mem_cons, List.not_mem_nil, not_or] at own
    simp [judge, named, rate, RunMetrics.observe, RunMetrics.rate?, Series.rate?, own]

theorem Series.kindOf_own (own : series ∉ builtinSeries) : kindOf series series = some .rate := by
  simp only [builtinSeries, List.mem_cons, List.not_mem_nil, not_or] at own
  simp [kindOf, own]

/-! ## Rows of a document -/

/-- A document whose thresholds are rows of texts. -/
def NamesRows (document : TomlEntries) (rows : ThresholdTable) : Prop :=
  document.sectionAt "thresholds" = rows.map fun row => (row.1, .array (row.2.map .text))

/-- A table has the rows that were given under their names in lower case. -/
def HoldsRows (table rows : ThresholdTable) : Prop :=
  ∀ row, row ∈ table ↔ ∃ given ∈ rows, (lowerText given.1, given.2) = row

/-- An array of texts is read as the texts. -/
theorem read_texts (texts : List String) :
    readList readText (ofValue none (.array (texts.map .text))) = .ok texts := by
  rw [Setting.ofValue_eq (by rintro _ _ ⟨⟩), Setting.ofToml, Setting.ofItems_texts]
  exact Setting.readList_texts texts

namespace NamesRows

variable (names : NamesRows document rows) (sections : document.Sectioned)

include names sections

/-- The names of the rows differ in more than case. -/
theorem apart : (rows.map (lowerText ·.1)).Nodup := by
  have nodup := Setting.nodup_sectionAt sections (by decide : "thresholds" ∈ Profile.sectionNames)
  rwa [names, List.map_map] at nodup

/-- What stands in the settings comes from a row. -/
theorem exists_of_mem {entry : String × Setting}
    (mem : entry ∈ Setting.joinEntries []
      (Setting.ofEntries none (document.sectionAt "thresholds"))) :
    ∃ given ∈ rows, lowerText given.1 = entry.1 ∧ readList readText entry.2 = .ok given.2 := by
  have nodup := Setting.nodup_sectionAt sections (by decide : "thresholds" ∈ Profile.sectionNames)
  have ordered : Setting.OrderedKeys (Setting.joinEntries []
      (Setting.ofEntries none (document.sectionAt "thresholds"))) :=
    Setting.OrderedKeys.nil.joinEntries
  have found := Setting.valueAt_join_ofEntries none nodup entry.1
  rw [ordered.mem_iff.mp mem] at found
  obtain ⟨value, here, same⟩ := Option.map_eq_some_iff.mp found.symm
  obtain ⟨written, listed, key, rfl⟩ := TomlEntries.mem_of_valueAt here
  rw [names] at listed
  obtain ⟨given, there, rfl⟩ := List.mem_map.mp listed
  exact ⟨given, there, key, same ▸ read_texts given.2⟩

/-- The rows are read under their names in lower case. -/
theorem namedRows_eq_ok :
    ∃ table, Profile.namedRows none document = .ok table ∧ HoldsRows table rows := by
  have nodup := Setting.nodup_sectionAt sections (by decide : "thresholds" ∈ Profile.sectionNames)
  have readable : ∀ entry ∈ Setting.joinEntries []
      (Setting.ofEntries none (document.sectionAt "thresholds")),
      ∃ texts, readList readText entry.2 = .ok texts := by
    intro entry mem
    obtain ⟨given, -, -, ok⟩ := names.exists_of_mem sections mem
    exact ⟨given.2, ok⟩
  obtain ⟨table, ok⟩ := @Setting.exists_readTable _ _ _ none readable
  refine ⟨table, ok, fun row => ⟨fun mem => ?_, ?_⟩⟩
  · obtain ⟨entry, listed, key, same⟩ :=
      exists_of_forall₂ (Setting.readTable_eq_ok.mp ok).flip mem
    obtain ⟨given, there, lower, texts⟩ := names.exists_of_mem sections listed
    exact ⟨given, there, Prod.ext (lower.trans key.symm) (Except.ok.inj (texts.symm.trans same))⟩
  · rintro ⟨given, there, rfl⟩
    have listed : (given.1, .array (given.2.map .text)) ∈ document.sectionAt "thresholds" := by
      rw [names]
      exact List.mem_map.mpr ⟨given, there, rfl⟩
    have found := Setting.valueAt_join_ofEntries none nodup (lowerText given.1)
    rw [TomlEntries.valueAt_of_mem nodup listed] at found
    obtain ⟨texts, mem, same⟩ := Setting.exists_row ok (Setting.mem_of_valueAt found)
    rw [read_texts] at same
    exact Except.ok.inj same ▸ mem

end NamesRows

/-! ## Documents that bound the failed steps -/

/-- The settings of a document, apart from its thresholds. -/
def Profile.Describes (document : TomlEntries) (q : Profile) : Prop :=
  ∀ row ∈ slots, Reads row.2.read row.2.other
    ((document.settingAt? row.1 row.2.key).map (ofValue none)) (row.2.value q)

theorem Profile.ofDocument_iff (parsed : Toml.ofText? text = some document)
    (sections : document.Sectioned) :
    ofDocument text = .ok p ↔ ∃ q : Profile, q.Describes document ∧
      namedRows none document = .ok q.thresholds ∧ q.withThresholds = p ∧ p.fault? = none := by
  have alone (q : Profile) : ofSettings (Setting.ofDocument none document) = .ok q ↔
      q.Describes document ∧ namedRows none document = .ok q.thresholds := by
    have unassigned : Setting.Addressed [] := nofun
    exact (ofSettings_sources sections unassigned).trans
      (and_congr_right fun _ => and_iff_right fun _ _ => rfl)
  simp only [ofDocument_eq_ok, parsed, Option.some.injEq, exists_and_left, exists_eq_left']
  exact exists_congr fun q => (and_congr_left fun _ => alone q).trans and_assoc

/-- A document that names the series of failed steps and has a row of thresholds under the same
name, with expressions that a rate has. Nothing is wrong with what else it says. -/
structure BoundsSteps (document : TomlEntries) (series : String) (sources : List String)
    (rows : ThresholdTable) (q : Profile) : Prop where
  sections : document.Sectioned
  names : NamesRows document rows
  described : Profile.Describes document q
  target : q.target.fault? = none
  scenario : q.scenario.fault? = none
  executor : q.executor.fault? = none
  value : document.settingAt? "scenario" "error_metric" = some (.text series)
  key : (series, sources) ∈ rows
  rates : ∀ source ∈ sources,
    ∃ e, Expression.ofText? source = .ok e ∧ e.aggregation.supports .rate = true
  others : ∀ row ∈ rows, row.1 ≠ series →
    ∃ ts, Threshold.ofRow? (Series.kindOf series) (lowerText row.1, row.2) = .ok ts

namespace BoundsSteps

variable (bounds : BoundsSteps document series sources rows q)

include bounds

theorem errorSeries : q.scenario.errorSeries = series := by
  have read := bounds.described ("scenario", Profile.errorSeriesSlot.within Profile.scenario)
    (by simp [Profile.slots, Profile.scenarioSlots])
  have found : document.settingAt? "scenario" Profile.errorSeriesSlot.key = some (.text series) :=
    bounds.value
  simp only [Setting.Slot.within, found] at read
  exact (Except.ok.inj read).symm

theorem own : series ∉ builtinSeries :=
  bounds.errorSeries ▸ ScenarioSettings.errorSeries_not_builtin bounds.scenario

theorem not_blank : isBlankText series = false :=
  bounds.errorSeries ▸ (ScenarioSettings.fault_eq_none.mp bounds.scenario).2.2.1

/-- The row under the name of the series is the only one. -/
theorem eq_of_key {row : String × List String} (mem : row ∈ rows) (key : row.1 = series) :
    row = (series, sources) :=
  List.inj_on_of_nodup_map (bounds.names.apart bounds.sections) mem bounds.key
    (congrArg lowerText key)

/-- No row is blank. -/
theorem row_fine {row : String × List String} (mem : row ∈ rows) :
    ThresholdTable.rowFault? (lowerText row.1, row.2) = none := by
  have filled : isBlankText (lowerText row.1) = false ∧ ∀ source ∈ row.2,
      ∃ e, Expression.ofText? source = .ok e := by
    by_cases key : row.1 = series
    · obtain rfl := bounds.eq_of_key mem key
      refine ⟨?_, fun source there => (bounds.rates source there).imp fun e read => read.1⟩
      by_contra blank
      have whole := isBlankText_of_lowerText (Bool.not_eq_false _ ▸ blank)
      cases whole.symm.trans bounds.not_blank
    · obtain ⟨ts, accepted⟩ := bounds.others row mem key
      obtain ⟨⟨kind, known⟩, read⟩ := Threshold.known_of_ofRow accepted
      refine ⟨?_, read⟩
      rcases Series.mem_of_kindOf known with builtin | same
      · have letters : ∀ name ∈ builtinSeries, isBlankText name = false := by decide
        exact letters _ builtin
      · have name_eq : lowerText row.1 = series := same
        rw [name_eq]
        exact bounds.not_blank
  obtain ⟨name, expressions⟩ := filled
  have none_blank : row.2.any isBlankText = false := by
    rw [List.any_eq_false]
    intro source mem
    obtain ⟨e, read⟩ := expressions source mem
    simp [Expression.not_blank read]
  simp only [ThresholdTable.rowFault?, name, none_blank, Bool.false_eq_true, if_false]

/-- The profile of the document is read. -/
theorem loads (parsed : Toml.ofText? text = some document) :
    ∃ table, Profile.ofDocument text = .ok { q with thresholds := table } ∧
      HoldsRows table rows := by
  obtain ⟨table, named, listed⟩ := bounds.names.namedRows_eq_ok bounds.sections
  refine ⟨table, (Profile.ofDocument_iff parsed bounds.sections).mpr
    ⟨{ q with thresholds := table }, fun row mem => ?_, named, ?_, ?_⟩, listed⟩
  · rw [Profile.value_withRows mem]
    exact bounds.described row mem
  · have filled : (lowerText series, sources) ∈ table :=
      (listed _).mpr ⟨_, bounds.key, rfl⟩
    exact Profile.withThresholds_of_ne (List.ne_nil_of_mem filled)
  · have rows_fine : table.fault? = none := by
      rw [ThresholdTable.fault?, List.findSome?_eq_none_iff]
      intro row mem
      obtain ⟨given, there, rfl⟩ := (listed row).mp mem
      exact bounds.row_fine there
    simp only [Profile.fault?, bounds.target, bounds.scenario, bounds.executor, rows_fine]
    rfl

/-- The load test of the profile that is read has the thresholds of its table, if they are
accepted. -/
theorem ofProfile_eq
    (read : Profile.ofDocument text = .ok { q with thresholds := table }) :
    LoadTest.ofProfile { q with thresholds := table } =
      match Threshold.ofTable? (Series.kindOf series) table with
      | .ok ts => .ok ⟨{ q with thresholds := table }, q.executor, true, ts⟩
      | .error e => .error (.thresholds e) := by
  obtain ⟨-, -, -, -, -, fine⟩ := Profile.ofDocument_eq_ok.mp read
  have same : Threshold.forRun? (.fresh q.scenario.errorSeries) table =
      Threshold.ofTable? (Series.kindOf series) table := by
    rw [bounds.errorSeries]
    rfl
  rw [LoadTest.ofProfile, fine]
  simp only [same]
  cases Threshold.ofTable? (Series.kindOf series) table <;> rfl

/-! ## Names in lower case -/

/-- A name in lower case is known under its key. -/
theorem accepts (lower : lowerText series = series) {row : String × List String}
    (mem : row ∈ rows) :
    ∃ ts, Threshold.ofRow? (Series.kindOf series) (lowerText row.1, row.2) = .ok ts := by
  by_cases key : row.1 = series
  · obtain rfl := bounds.eq_of_key mem key
    have known : Series.kindOf series (lowerText series) = some .rate :=
      lower.symm ▸ Series.kindOf_own bounds.own
    exact Threshold.ofRow_of_supported known bounds.rates
  · exact bounds.others row mem key

/-- Where the name is in lower case, there are thresholds, and each rate is one that measures the
failed steps. -/
theorem measured (lower : lowerText series = series) (listed : HoldsRows table rows) :
    ∃ ts, Threshold.ofTable? (Series.kindOf series) table = .ok ts ∧
      ∀ source ∈ sources, ∀ e, Expression.ofText? source = .ok e → e.aggregation = .rate →
        ∃ t ∈ ts, t.source = trimBlank source ∧ t.expression = e ∧ t.MeasuresSteps series := by
  have each : ∀ row ∈ table, ∃ ts, Threshold.ofRow? (Series.kindOf series) row = .ok ts := by
    intro row mem
    obtain ⟨given, there, rfl⟩ := (listed row).mp mem
    exact bounds.accepts lower there
  obtain ⟨ts, accepted⟩ := Threshold.exists_ofTable each
  refine ⟨ts, accepted, fun source mem e read rate => ?_⟩
  have entry : (series, source) ∈ table.expressions := by
    have row : (series, sources) ∈ table :=
      (listed _).mpr ⟨_, bounds.key, Prod.ext lower rfl⟩
    exact List.mem_flatMap.mpr ⟨_, row, List.mem_map.mpr ⟨source, mem, rfl⟩⟩
  obtain ⟨t, there, reads⟩ := exists_of_forall₂ (Threshold.reads_ofTable accepted) entry
  have same : t.expression = e := Except.ok.inj (reads.expression.symm.trans read)
  refine ⟨t, there, reads.source, same, ?_⟩
  exact (Threshold.measuresSteps_iff bounds.own).mpr ⟨reads.series, same ▸ rate⟩

/-! ## Names with capitals -/

/-- A name with capitals is no key of the table, so no threshold measures the failed steps. -/
theorem unmeasured (capital : lowerText series ≠ series)
    (listed : HoldsRows table rows)
    {ts : List Threshold} (accepted : Threshold.ofTable? (Series.kindOf series) table = .ok ts) :
    ∀ t ∈ ts, ¬ t.MeasuresSteps series := by
  intro t mem measures
  obtain ⟨entry, there, reads⟩ := exists_of_forall₂ (Threshold.reads_ofTable accepted).flip mem
  obtain ⟨row, row_mem, expression_mem⟩ := List.mem_flatMap.mp there
  obtain ⟨source, -, rfl⟩ := List.mem_map.mp expression_mem
  obtain ⟨given, -, rfl⟩ := (listed row).mp row_mem
  have named := ((Threshold.measuresSteps_iff bounds.own).mp measures).1
  have key : lowerText given.1 = series := reads.series.symm.trans named
  rw [← key, lowerText_lowerText] at capital
  exact capital rfl

/-- Where no series has the name in lower case, the thresholds are refused for that. -/
theorem unknown (capital : lowerText series ≠ series) (absent : lowerText series ∉ builtinSeries)
    (listed : HoldsRows table rows) :
    Threshold.ofTable? (Series.kindOf series) table =
      .error (.unknownSeries (lowerText series)) := by
  have refused : Threshold.ofRow? (Series.kindOf series) (lowerText series, sources) =
      .error (.unknownSeries (lowerText series)) := by
    have unknown : Series.kindOf series (lowerText series) = none := by
      by_contra known
      obtain ⟨kind, known⟩ := Option.ne_none_iff_exists'.mp known
      exact (Series.mem_of_kindOf known).elim absent capital
    simp only [Threshold.ofRow?, unknown]
  refine Threshold.ofTable_eq_error ⟨_, (listed _).mpr ⟨_, bounds.key, rfl⟩, refused⟩ ?_
  intro row mem
  obtain ⟨given, there, rfl⟩ := (listed row).mp mem
  by_cases key : given.1 = series
  · obtain rfl := bounds.eq_of_key there key
    exact .inl refused
  · exact .inr (bounds.others given there key)

end BoundsSteps

/-- A profile that names the series of failed steps and bounds its rates under the same name is
read. If the name is in lower case, it makes a load test, whose thresholds for these rates measure
the failed steps. If it is not, no threshold measures them, and unless the name in lower case is
that of another series, the profile makes no load test. -/
theorem errorSeries_measured (parsed : Toml.ofText? text = some document)
    (bounds : BoundsSteps document series sources rows q) :
    ∃ p, Profile.ofDocument text = .ok p ∧ p.scenario.errorSeries = series ∧
      (lowerText series, sources) ∈ p.thresholds ∧
      (lowerText series = series →
        ∃ t, LoadTest.ofProfile p = .ok t ∧
          ∀ source ∈ sources, ∀ e, Expression.ofText? source = .ok e → e.aggregation = .rate →
            ∃ threshold ∈ t.thresholds, threshold.source = trimBlank source ∧
              threshold.expression = e ∧ threshold.MeasuresSteps series) ∧
      (lowerText series ≠ series →
        (∀ t, LoadTest.ofProfile p = .ok t →
          ∀ threshold ∈ t.thresholds, ¬ threshold.MeasuresSteps series) ∧
        (lowerText series ∉ builtinSeries → LoadTest.ofProfile p =
          .error (.thresholds (.unknownSeries (lowerText series))))) := by
  obtain ⟨table, read, listed⟩ := bounds.loads parsed
  have made := bounds.ofProfile_eq read
  refine ⟨_, read, bounds.errorSeries, (listed _).mpr ⟨_, bounds.key, rfl⟩, fun lower => ?_,
    fun capital => ⟨fun t ok => ?_, fun absent => ?_⟩⟩
  · obtain ⟨ts, accepted, each⟩ := bounds.measured lower listed
    rw [accepted] at made
    exact ⟨_, made, each⟩
  · obtain ⟨-, -, -, -, accepted⟩ := LoadTest.ofProfile_eq ok
    rw [bounds.errorSeries] at accepted
    exact bounds.unmeasured capital listed accepted
  · rw [bounds.unknown capital absent listed] at made
    exact made

/-! ## Two sections -/

/-- Two sections: one names the series of failed steps, and one bounds it. -/
def stepsDocument (series source : String) : List (String × TomlEntries) :=
  [("scenario", [("error_metric", .text series)]),
    ("thresholds", [(series, .array [.text source])])]

theorem ofText_stepsDocument {source : String} (unreserved : series ≠ Toml.momentKey) :
    Toml.ofText? (Toml.sectionsText (stepsDocument series source)) =
      some ((stepsDocument series source).map Toml.underHeader) := by
  have names : ["scenario", "thresholds"].Nodup := by decide
  have metric : "error_metric" ≠ Toml.momentKey := by decide
  have scenario : "scenario" ≠ Toml.momentKey := by decide
  refine Toml.ofText_of_plain names ?_ ?_ ?_ ?_
  · simp [stepsDocument]
  · simp only [stepsDocument, List.forall_mem_cons]
    exact ⟨⟨.text series, nofun⟩, ⟨.texts [source], nofun⟩, nofun⟩
  · simp [stepsDocument, unreserved, metric]
  · simp [stepsDocument, scenario]

theorem settingAt_stepsDocument (series source : String) {name : String}
    (other : name ≠ "thresholds") (key : String) :
    TomlEntries.settingAt? name key ((stepsDocument series source).map Toml.underHeader) =
      if (name, key) = ("scenario", "error_metric") then some (.text series) else none := by
  have scenario : lowerText "scenario" = "scenario" := by decide
  have thresholds : lowerText "thresholds" = "thresholds" := by decide
  have metric : lowerText "error_metric" = "error_metric" := by decide
  rw [TomlEntries.settingAt?, TomlEntries.sectionAt_underHeader, stepsDocument]
  by_cases here : "scenario" = name
  · subst here
    by_cases same : "error_metric" = key
    · subst same
      simp [TomlEntries.valueAt?, scenario, metric]
    · simp [TomlEntries.valueAt?, scenario, metric, same, Ne.symm same]
  · simp [TomlEntries.valueAt?, scenario, thresholds, here, Ne.symm here, Ne.symm other]

/-- Apart from the name, everything is the default. -/
theorem Profile.value_ofSeries (series : String) : ∀ row ∈ slots,
    (row.1, row.2.key) ≠ ("scenario", "error_metric") →
      row.2.value (ofSeries series) = row.2.other := by
  simp only [slots, List.forall_mem_append, List.forall_mem_map, targetSlots, scenarioSlots,
    executorSlots, loggingSlots, exporterSlots, reportSlots, List.forall_mem_cons]
  simp [ofSeries, defaults, Slot.within, requestTimeoutSlot, citySlot, pageSlot, limitSlot,
    optimizedListingSlot, errorSeriesSlot, directorySlot, filePrefixSlot, summaryPathSlot]

theorem Profile.describes_stepsDocument (series source : String) :
    Describes ((stepsDocument series source).map Toml.underHeader) (ofSeries series) := by
  intro row mem
  have other : row.1 ≠ "thresholds" := by
    have others : ∀ row ∈ slots, row.1 ≠ "thresholds" := by decide
    exact others row mem
  rw [settingAt_stepsDocument series source other]
  by_cases here : (row.1, row.2.key) = ("scenario", "error_metric")
  · have metric : ("scenario", errorSeriesSlot.within scenario) ∈ slots := by
      simp [slots, scenarioSlots]
    obtain rfl := List.inj_on_of_nodup_map slots_nodup mem metric here
    rfl
  · rw [if_neg here]
    exact value_ofSeries series row mem here

/-- Every name that is accepted and not reserved can be given and bounded so. -/
theorem boundsSteps_stepsDocument {source : String}
    (fine : (Profile.ofSeries series).scenario.fault? = none)
    (rate : ∃ e, Expression.ofText? source = .ok e ∧ e.aggregation.supports .rate = true) :
    BoundsSteps ((stepsDocument series source).map Toml.underHeader) series [source]
      [(series, [source])] (Profile.ofSeries series) where
  sections := by
    refine TomlEntries.sectioned_underHeader ?_ ?_ ?_
    · have plain : ∀ name ∈ ["scenario", "thresholds"], Setting.pathOf name = [.name name] := by
        decide
      simpa [stepsDocument] using plain
    · have apart : (["scenario", "thresholds"].map lowerText).Nodup := by decide
      exact apart
    · simp [stepsDocument]
  names := by
    have scenario : lowerText "scenario" = "scenario" := by decide
    have thresholds : lowerText "thresholds" = "thresholds" := by decide
    rw [NamesRows, TomlEntries.sectionAt_underHeader, stepsDocument]
    simp [scenario, thresholds]
  described := Profile.describes_stepsDocument series source
  target := (by decide : TargetSettings.defaults.fault? = none)
  scenario := fine
  executor := (by decide : ExecutorSettings.defaults.fault? = none)
  value := settingAt_stepsDocument series source (by decide) "error_metric"
  key := List.mem_singleton_self _
  rates := List.forall_mem_singleton.mpr rate
  others := List.forall_mem_singleton.mpr fun other => absurd rfl other

theorem supported_failureLimit :
    ∃ e, Expression.ofText? "rate<0.0001" = .ok e ∧ e.aggregation.supports .rate = true :=
  ⟨_, Expression.ofText_failureLimit, rfl⟩

theorem errorSeries_measured_lower :
    ∃ p t, Profile.ofDocument ("[scenario]\nerror_metric = \"step_errors\"\n\n" ++
        "[thresholds]\nstep_errors = [\"rate<0.0001\"]\n") = .ok p ∧
      LoadTest.ofProfile p = .ok t ∧
      ∃ threshold ∈ t.thresholds, threshold.source = "rate<0.0001" ∧
        threshold.MeasuresSteps "step_errors" := by
  have text_eq : Toml.sectionsText (stepsDocument "step_errors" "rate<0.0001") =
      "[scenario]\nerror_metric = \"step_errors\"\n\n" ++
        "[thresholds]\nstep_errors = [\"rate<0.0001\"]\n" := by
    decide
  have parsed : Toml.ofText? (Toml.sectionsText (stepsDocument "step_errors" "rate<0.0001")) =
      some _ := ofText_stepsDocument (by decide)
  have bounds : BoundsSteps _ "step_errors" ["rate<0.0001"] _ _ :=
    boundsSteps_stepsDocument (by decide) supported_failureLimit
  obtain ⟨p, read, -, -, lower, -⟩ := errorSeries_measured parsed bounds
  obtain ⟨t, made, each⟩ := lower (by decide)
  obtain ⟨threshold, mem, source, -, measures⟩ :=
    each _ List.mem_cons_self _ Expression.ofText_failureLimit rfl
  have trimmed : trimBlank "rate<0.0001" = "rate<0.0001" := by decide_cbv
  exact ⟨p, t, text_eq ▸ read, made, threshold, mem, source.trans trimmed, measures⟩

/-- A name with capitals is accepted and bounded by a rate, and makes no load test. -/
theorem capitals_unknown :
    (Profile.ofSeries "MyErrors").scenario.fault? = none ∧
      Expression.ofText? "rate<0.0001" = .ok ⟨.rate, .less, Threshold.failureBound⟩ ∧
      ∃ p, Profile.ofDocument ("[scenario]\nerror_metric = \"MyErrors\"\n\n" ++
          "[thresholds]\nMyErrors = [\"rate<0.0001\"]\n") = .ok p ∧
        p.scenario.errorSeries = "MyErrors" ∧
        LoadTest.ofProfile p = .error (.thresholds (.unknownSeries "myerrors")) := by
  have text_eq : Toml.sectionsText (stepsDocument "MyErrors" "rate<0.0001") =
      "[scenario]\nerror_metric = \"MyErrors\"\n\n" ++
        "[thresholds]\nMyErrors = [\"rate<0.0001\"]\n" := by
    decide
  have lowered : lowerText "MyErrors" = "myerrors" := by decide
  have fine : (Profile.ofSeries "MyErrors").scenario.fault? = none := by decide
  have bounds : BoundsSteps _ "MyErrors" ["rate<0.0001"] _ _ :=
    boundsSteps_stepsDocument fine supported_failureLimit
  obtain ⟨table, read, listed⟩ := bounds.loads (ofText_stepsDocument (by decide))
  have refused := bounds.ofProfile_eq read
  rw [bounds.unknown (by decide) (by decide) listed, lowered] at refused
  exact ⟨fine, Expression.ofText_failureLimit, _, text_eq ▸ read, rfl, refused⟩

end LoadHarness
