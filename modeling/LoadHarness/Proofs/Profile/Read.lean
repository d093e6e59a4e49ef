import Mathlib
import LoadHarness.Proofs.Profile.Section
import LoadHarness.Proofs.Threshold.Defaults

/-!
# Profiles that are read

What a profile has in common with every other one that was read from a document: its numbers, its
durations and its address are within their bounds, no series has two rows of thresholds, there are
thresholds, and no fault is left.
-/

namespace LoadHarness

/-! ## Tables of thresholds -/

section Tables

variable {table : ThresholdTable} {series : String} {sources : List String}

theorem ThresholdTable.put_ne_nil : table.put series sources ≠ [] := by
  rw [put]
  split
  · next there =>
    rintro same
    rw [List.map_eq_nil_iff.mp same] at there
    cases there
  · exact List.append_ne_nil_of_right_ne_nil _ (List.cons_ne_nil _ _)

/-- A table with a row put into it has no series twice. -/
theorem ThresholdTable.nodup_put (nodup : (table.map Prod.fst).Nodup) :
    ((table.put series sources).map Prod.fst).Nodup := by
  rw [put]
  split
  · have same : (table.map fun entry =>
        if entry.1 == series then (series, sources) else entry).map Prod.fst =
          table.map Prod.fst := by
      rw [List.map_map]
      refine List.map_congr_left fun entry _ => ?_
      by_cases here : entry.1 = series <;> simp [here]
    rwa [same]
  · next absent =>
    rw [List.map_append, List.map_singleton, List.nodup_append_comm]
    refine List.nodup_cons.mpr ⟨fun mem => absent ?_, nodup⟩
    obtain ⟨entry, there, rfl⟩ := List.mem_map.mp mem
    exact List.any_eq_true.mpr ⟨entry, there, beq_self_eq_true _⟩

theorem ThresholdTable.nodup_ofEntries (entries : List (String × List String)) :
    ((ofEntries entries).map Prod.fst).Nodup := by
  exact List.foldlRecOn entries _
    (motive := fun table : ThresholdTable => (table.map Prod.fst).Nodup) List.nodup_nil
    fun table nodup entry _ => nodup_put nodup

theorem ThresholdTable.defaults_ne_nil : defaults series ≠ [] := put_ne_nil

end Tables

namespace Profile

open Setting (readText readBool readNatural readShortNatural readVariant readOptional readList
  readTable readSection)

/-! ## Bounds -/

/-- Page and limit fit into 32 binary digits, the whole seconds of durations into 64, and the
address has bytes or groups and a port. -/
structure Bounded (p : Profile) : Prop where
  page : p.scenario.page < Word.bound32
  limit : p.scenario.limit < Word.bound32
  requestTimeout : p.target.requestTimeout.FitsWord
  timeUnit : p.executor.timeUnit.FitsWord
  duration : p.executor.duration.FitsWord
  gracefulStop : p.executor.gracefulStop.FitsWord
  listen : p.exporter.listen.IsValid

section Bounds

variable {s : Setting}

theorem lt_of_readShortNatural {n : Nat} (ok : readShortNatural s = .ok n) : n < Word.bound32 := by
  obtain ⟨m, -, ok⟩ := bind_eq_ok.mp ok
  split at ok
  · next small => exact Except.ok.inj ok ▸ small
  · cases ok

theorem fitsWord_of_readDuration {d : Duration} (ok : readDuration s = .ok d) : d.FitsWord := by
  obtain ⟨text, -, ok⟩ := bind_eq_ok.mp ok
  split at ok
  · next read => exact Except.ok.inj ok ▸ Duration.fitsWord_of_ofText read
  · cases ok

theorem isValid_of_readAddress {a : SocketAddress} (ok : readAddress s = .ok a) : a.IsValid := by
  obtain ⟨text, -, ok⟩ := bind_eq_ok.mp ok
  split at ok
  · next read => exact Except.ok.inj ok ▸ SocketAddress.isValid_of_ofText read
  · cases ok

theorem fitsWord_of_read {settings : Setting.Section} {key : String} {other d : Duration}
    (default : other.FitsWord) (ok : settings.read key readDuration other = .ok d) : d.FitsWord :=
  Setting.Section.read_keeps default (fun _ _ => fitsWord_of_readDuration) ok

theorem lt_of_read {settings : Setting.Section} {key : String} {other n : Nat}
    (default : other < Word.bound32) (ok : settings.read key readShortNatural other = .ok n) :
    n < Word.bound32 :=
  Setting.Section.read_keeps (p := (· < Word.bound32)) default
    (fun _ _ => lt_of_readShortNatural) ok

theorem bounded_of_readTarget {t : TargetSettings} (ok : readTarget s = .ok t) :
    t.requestTimeout.FitsWord := by
  simp only [readTarget, bind_eq_ok] at ok
  obtain ⟨settings, -, url, -, timeout, timeout_read, same⟩ := ok
  obtain rfl := Except.ok.inj same
  exact fitsWord_of_read (Duration.fitsWord_ofSeconds (by decide)) timeout_read

theorem bounded_of_readScenario {t : ScenarioSettings} (ok : readScenario s = .ok t) :
    t.page < Word.bound32 ∧ t.limit < Word.bound32 := by
  simp only [readScenario, bind_eq_ok] at ok
  obtain ⟨settings, -, role, -, city, -, page, page_read, limit, limit_read, listing, -, series, -,
    same⟩ := ok
  obtain rfl := Except.ok.inj same
  exact ⟨lt_of_read (by decide) page_read, lt_of_read (by decide) limit_read⟩

theorem bounded_of_readExecutor {t : ExecutorSettings} (ok : readExecutor s = .ok t) :
    t.timeUnit.FitsWord ∧ t.duration.FitsWord ∧ t.gracefulStop.FitsWord := by
  simp only [readExecutor, bind_eq_ok] at ok
  obtain ⟨settings, -, kind, -, rate, -, timeUnit, timeUnit_read, duration, duration_read,
    allocated, -, most, -, gracefulStop, gracefulStop_read, iterations, -, workers, -, same⟩ := ok
  obtain rfl := Except.ok.inj same
  exact ⟨fitsWord_of_read (Duration.fitsWord_ofSeconds (by decide)) timeUnit_read,
    fitsWord_of_read (Duration.fitsWord_ofSeconds (by decide)) duration_read,
    fitsWord_of_read (Duration.fitsWord_ofSeconds (by decide)) gracefulStop_read⟩

theorem bounded_of_readExporter {t : ExporterSettings} (ok : readExporter s = .ok t) :
    t.listen.IsValid := by
  simp only [readExporter, bind_eq_ok] at ok
  obtain ⟨settings, -, enabled, -, listen, listen_read, same⟩ := ok
  obtain rfl := Except.ok.inj same
  have default : ExporterSettings.defaults.listen.IsValid := .v4 (by decide) (by decide)
  exact Setting.Section.read_keeps default (fun _ _ => isValid_of_readAddress) listen_read

/-- What is read from settings is within bounds. -/
theorem bounded_of_ofSettings {p : Profile} (ok : ofSettings s = .ok p) : p.Bounded := by
  simp only [ofSettings, bind_eq_ok] at ok
  obtain ⟨settings, -, target, target_read, scenario, scenario_read, executor, executor_read,
    thresholds, -, logging, -, exporter, exporter_read, summaryPath, -, same⟩ := ok
  obtain rfl := Except.ok.inj same
  have timeout := Setting.Section.read_keeps (p := fun t => t.requestTimeout.FitsWord)
    (Duration.fitsWord_ofSeconds (by decide)) (fun _ _ => bounded_of_readTarget) target_read
  have numbers := Setting.Section.read_keeps
    (p := fun t => t.page < Word.bound32 ∧ t.limit < Word.bound32) (by decide)
    (fun _ _ => bounded_of_readScenario) scenario_read
  have durations := Setting.Section.read_keeps
    (p := fun t => t.timeUnit.FitsWord ∧ t.duration.FitsWord ∧ t.gracefulStop.FitsWord)
    ⟨Duration.fitsWord_ofSeconds (by decide), Duration.fitsWord_ofSeconds (by decide),
      Duration.fitsWord_ofSeconds (by decide)⟩ (fun _ _ => bounded_of_readExecutor) executor_read
  have listen := Setting.Section.read_keeps (p := fun t => t.listen.IsValid)
    (.v4 (by decide) (by decide)) (fun _ _ => bounded_of_readExporter) exporter_read
  exact ⟨numbers.1, numbers.2, timeout, durations.1, durations.2.1, durations.2.2, listen⟩

end Bounds

/-! ## Names of thresholds -/

/-- The thresholds of a table of tables have different names in lower case. -/
theorem orderedNames_of_ofSettings {table : List (String × Setting)} {origin : Option String}
    {p : Profile} (deep : Setting.Deep (.table table origin))
    (ok : ofSettings (.table table origin) = .ok p) :
    (p.thresholds.map Prod.fst).Nodup ∧ ∀ row ∈ p.thresholds, lowerText row.1 = row.1 := by
  simp only [ofSettings, bind_eq_ok] at ok
  obtain ⟨settings, settings_eq, target, -, scenario, -, executor, -, thresholds, thresholds_read,
    logging, -, exporter, -, summaryPath, -, same⟩ := ok
  obtain rfl := Except.ok.inj same
  obtain rfl := Except.ok.inj settings_eq
  rw [Setting.Section.read] at thresholds_read
  split at thresholds_read
  · next key step s found =>
    have listed := List.mem_of_find?_eq_some found
    obtain ⟨entry, mem, same⟩ := List.mem_map.mp listed
    obtain ⟨-, -, rfl⟩ := Prod.mk.inj same
    obtain ⟨rows, place, rows_eq, names⟩ :=
      Setting.keys_of_readTable (mapError_eq_ok.mp thresholds_read)
    have ordered : Setting.Ordered entry.2 := deep.tables entry mem
    rw [rows_eq] at ordered
    exact ordered.names names
  · obtain rfl := Except.ok.inj thresholds_read
    exact ⟨List.nodup_nil, fun row mem => absurd mem List.not_mem_nil⟩

/-! ## Documents -/

theorem ofLayers_eq_ok {source : Source} {s : Setting} {p : Profile} :
    ofLayers source s = .ok p ↔
      ∃ q, ofSettings s = .ok q ∧ q.withThresholds = p ∧ p.fault? = none := by
  simp only [ofLayers, bind_eq_ok, mapError_eq_ok]
  refine exists_congr fun q => and_congr_right fun _ => ?_
  split
  · next fault found =>
    constructor
    · rintro ⟨⟩
    · rintro ⟨rfl, faultless⟩
      rw [found] at faultless
      cases faultless
  · next found =>
    constructor
    · rintro ⟨⟩
      exact ⟨rfl, found⟩
    · rintro ⟨rfl, -⟩
      rfl

theorem ofDocument_eq_ok {text : String} {p : Profile} :
    ofDocument text = .ok p ↔ ∃ document q, Toml.ofText? text = some document ∧
      ofSettings (Setting.layer (.table [] none) (Setting.ofEntries none document)) = .ok q ∧
      q.withThresholds = p ∧ p.fault? = none := by
  rw [ofDocument]
  cases Toml.ofText? text with
  | none =>
      constructor
      · rintro ⟨⟩
      · rintro ⟨document, q, ⟨⟩, -⟩
  | some document =>
      simp only [ofLayers_eq_ok, Option.some.injEq, exists_and_left, exists_eq_left']

theorem withThresholds_of_ne {p : Profile} (named : p.thresholds ≠ []) : p.withThresholds = p :=
  if_neg (by simpa using named)

/-- The thresholds of a profile that is read are its own, under different names in lower case, or
the default ones. -/
theorem thresholds_of_ofDocument {text : String} {p : Profile} (ok : ofDocument text = .ok p) :
    p.thresholds = .defaults p.scenario.errorSeries ∨
      p.thresholds ≠ [] ∧ (p.thresholds.map Prod.fst).Nodup ∧
        ∀ row ∈ p.thresholds, lowerText row.1 = row.1 := by
  obtain ⟨document, q, -, read, rfl, -⟩ := ofDocument_eq_ok.mp ok
  have empty : Setting.Deep (.table [] none) := ⟨.nil, fun entry mem => absurd mem List.not_mem_nil⟩
  -- keys may be paths, so that a document need not have a section of thresholds to give some
  obtain ⟨table, place, layer_eq, deep⟩ :=
    Setting.deep_layer (Setting.ofEntries none document) [] none empty
  rw [layer_eq] at read
  rcases eq_or_ne q.thresholds [] with none_named | named
  · left
    rw [withThresholds, if_pos (by simpa using none_named)]
  · rw [withThresholds_of_ne named]
    exact .inr ⟨named, orderedNames_of_ofSettings deep read⟩

/-- What a profile has in common with every other one that is read from a document. -/
structure Read (p : Profile) : Prop extends Bounded p where
  /-- No series has two rows of thresholds. -/
  nodup : (p.thresholds.map Prod.fst).Nodup
  /-- There are thresholds. -/
  named : p.thresholds ≠ []
  faultless : p.fault? = none

/-- Whether a profile has a fault does not depend on the order of its thresholds. -/
theorem fault_withRows {p : Profile} {rows : ThresholdTable} (perm : rows.Perm p.thresholds) :
    { p with thresholds := rows }.fault? = none ↔ p.fault? = none := by
  have rows_fine : rows.fault? = none ↔ p.thresholds.fault? = none := by
    simp only [ThresholdTable.fault?, List.findSome?_eq_none_iff, perm.mem_iff]
  simp only [fault?, Option.orElse_eq_none, Option.map_eq_none_iff, rows_fine]

/-- What is known of a profile that was read holds with its rows in any order. -/
theorem Read.withRows {p : Profile} (read : p.Read) {rows : ThresholdTable}
    (perm : rows.Perm p.thresholds) :
    { p with thresholds := rows }.Read where
  page := read.page
  limit := read.limit
  requestTimeout := read.requestTimeout
  timeUnit := read.timeUnit
  duration := read.duration
  gracefulStop := read.gracefulStop
  listen := read.listen
  nodup := (perm.map Prod.fst).nodup_iff.mpr read.nodup
  named := by
    rintro rfl
    exact read.named perm.nil_eq.symm
  faultless := (fault_withRows perm).mpr read.faultless

theorem read_of_ofDocument {text : String} {p : Profile} (ok : ofDocument text = .ok p) :
    p.Read := by
  have names : (p.thresholds.map Prod.fst).Nodup ∧ p.thresholds ≠ [] := by
    rcases thresholds_of_ofDocument ok with defaults | ⟨named, nodup, -⟩
    · rw [defaults]
      exact ⟨ThresholdTable.nodup_ofEntries _, ThresholdTable.defaults_ne_nil⟩
    · exact ⟨nodup, named⟩
  obtain ⟨document, q, -, read, rfl, faultless⟩ := ofDocument_eq_ok.mp ok
  have bounded : q.withThresholds.Bounded := by
    have settings := bounded_of_ofSettings read
    rw [withThresholds]
    split
    · exact { settings with }
    · exact settings
  exact { bounded with nodup := names.1, named := names.2, faultless }

/-- The names of thresholds that are read are in lower case. The default ones are not read: they
have the name of the failed steps as it is. -/
theorem lower_iff_of_ofDocument {text : String} {p : Profile} (ok : ofDocument text = .ok p) :
    (∀ row ∈ p.thresholds, lowerText row.1 = row.1) ↔
      (p.thresholds = .defaults p.scenario.errorSeries →
        lowerText p.scenario.errorSeries = p.scenario.errorSeries) := by
  have rows := Threshold.defaults_eq (scenario_fine (read_of_ofDocument ok).faultless)
  rcases thresholds_of_ofDocument ok with defaults | ⟨-, -, lower⟩
  · have latency : lowerText "http_req_duration" = "http_req_duration" := by decide
    have failed : lowerText "http_req_failed" = "http_req_failed" := by decide
    simp [defaults, rows, latency, failed]
  · refine ⟨fun _ defaults => ?_, fun _ => lower⟩
    refine lower (p.scenario.errorSeries, ["rate<0.0001"]) ?_
    simp [defaults, rows]

end Profile

end LoadHarness
