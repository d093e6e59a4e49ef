import Mathlib
import LoadHarness.Proofs.Profile.Reading

/-!
# Profiles are read back from their documents

A profile that can be written is read back, with its thresholds in some order. Two things stand
against that: whole numbers of 64 binary digits can be read but not written, and the default
thresholds are written under the name of the failed steps, which is read in lower case. A third
one is rare: a document that begins its thresholds with the reserved key is not read at all.
-/

namespace LoadHarness

namespace Profile

open Setting (ofEntries ofSection TableOf readText readNatural readList readTable)

variable {p : Profile}

/-! ## Documents of one setting -/

/-- A document that gives one setting as a text. -/
def singleDocument (name key text : String) : String :=
  Toml.sectionsText [(name, [(key, .text text)])]

/-- The setting is found in its section, and nothing else. -/
theorem tableOf_singleDocument (name key text : String) (mem : name ∈ sectionNames)
    (lower : lowerText key = key) (unreserved : key ≠ Toml.momentKey) :
    ∃ document, Toml.ofText? (singleDocument name key text) = some document ∧
      TableOf (Setting.layer (.table [] none) (ofEntries none document))
        [(name, ofSection [(key, .text text)])] ∧
      TableOf (ofSection [(key, .text text)]) [(key, .text text none)] := by
  have plain : ∀ entry ∈ [(key, TomlValue.text text)], Toml.Plain entry.2 :=
    List.forall_mem_singleton.mpr (.text text)
  have names : ([(name, [(key, TomlValue.text text)])].map Prod.fst).Nodup := by simp
  have keys : ([(key, TomlValue.text text)].map Prod.fst).Nodup := by simp
  have named : name ≠ Toml.momentKey := by
    rintro rfl
    exact absurd mem (by decide)
  obtain ⟨filled, chars⟩ := sectionNames_plain name mem
  refine ⟨[(name, [(key, TomlValue.text text)])].map Toml.underHeader, ?_, ?_, ?_⟩
  · refine Toml.ofText_of_plain names (List.forall_mem_singleton.mpr keys)
      (List.forall_mem_singleton.mpr plain) (List.forall_mem_singleton.mpr ?_) ?_
    · exact fun same => unreserved (Option.some.inj same)
    · exact fun same => named (Option.some.inj same)
  · exact Setting.tableOf_layer names (List.forall_mem_singleton.mpr (sectionNames_lower name mem))
      (List.forall_mem_singleton.mpr (Setting.pathOf_of_nameChars filled chars))
  · exact Setting.tableOf_ofSection plain keys (List.forall_mem_singleton.mpr lower)

/-- Settings that are not there have their defaults. -/
theorem read_left_out {α : Type} {settings : Setting.Section} {given key : String} {s : Setting}
    {read : Setting.Decoder α} {other : α} (holds : settings.Holds [(given, s)])
    (apart : key ≠ given) : settings.read key read other = .ok other :=
  holds.read_default (by simpa using apart)

/-- The profile that names the series of failed steps and nothing else. -/
def ofSeries (series : String) : Profile :=
  { defaults with
    scenario := { ScenarioSettings.defaults with errorSeries := series }
    thresholds := .defaults series }

theorem ofDocument_series {series : String} (fine : (ofSeries series).fault? = none) :
    ofDocument (singleDocument "scenario" "error_metric" series) = .ok (ofSeries series) := by
  obtain ⟨document, text_eq, whole, inner⟩ := tableOf_singleDocument "scenario" "error_metric"
    series (by decide) (by decide) (by decide)
  obtain ⟨sections, sections_eq, outer⟩ := whole.section "LoadTestConfig"
    ["target", "scenario", "executor", "thresholds", "logging", "metrics", "report"]
  obtain ⟨settings, settings_eq, holds⟩ := inner.section "ScenarioConfig"
    ["role", "city", "page", "limit", "optimized_listing", "error_metric"]
  have given (other : String) : settings.read "error_metric" readText other = .ok series :=
    holds.read_eq (List.mem_singleton_self _) rfl
  have scenario (other : ScenarioSettings) : sections.read "scenario" readScenario other =
      .ok { ScenarioSettings.defaults with errorSeries := series } := by
    refine outer.read_eq (List.mem_singleton_self _) ?_
    simp only [readScenario, settings_eq, ok_bind, given, read_left_out holds, ne_eq,
      String.reduceEq, not_false_eq_true]
    rfl
  have read : ofSettings (Setting.layer (.table [] none) (ofEntries none document)) =
      .ok { ofSeries series with thresholds := [] } := by
    simp only [ofSettings, sections_eq, ok_bind, scenario, read_left_out outer, ne_eq,
      String.reduceEq, not_false_eq_true]
    rfl
  exact ofDocument_eq_ok.mpr ⟨document, _, text_eq, read, rfl, fine⟩

/-- The profile that gives the number of workers and nothing else. -/
def ofWorkers (n : Nat) : Profile :=
  { defaults with executor := { ExecutorSettings.defaults with workers := n } }

/-- The number of workers is read from its digits. -/
theorem ofDocument_workers {n : Nat} (small : n < Word.bound64) :
    ofDocument (singleDocument "executor" "workers" (toString n)) = .ok (ofWorkers n) := by
  obtain ⟨document, text_eq, whole, inner⟩ := tableOf_singleDocument "executor" "workers"
    (toString n) (by decide) (by decide) (by decide)
  obtain ⟨sections, sections_eq, outer⟩ := whole.section "LoadTestConfig"
    ["target", "scenario", "executor", "thresholds", "logging", "metrics", "report"]
  obtain ⟨settings, settings_eq, holds⟩ := inner.section "ExecutorConfig"
    ["kind", "rate", "time_unit", "duration", "pre_allocated_workers", "max_workers",
      "graceful_stop", "iterations", "workers"]
  have given (other : Nat) : settings.read "workers" readNatural other = .ok n :=
    holds.read_eq (List.mem_singleton_self _) (Setting.readNatural_toString small)
  have executor (other : ExecutorSettings) : sections.read "executor" readExecutor other =
      .ok { ExecutorSettings.defaults with workers := n } := by
    refine outer.read_eq (List.mem_singleton_self _) ?_
    simp only [readExecutor, settings_eq, ok_bind, given, read_left_out holds, ne_eq,
      String.reduceEq, not_false_eq_true]
    rfl
  have read : ofSettings (Setting.layer (.table [] none) (ofEntries none document)) =
      .ok { ofWorkers n with thresholds := [] } := by
    simp only [ofSettings, sections_eq, ok_bind, executor, read_left_out outer, ne_eq,
      String.reduceEq, not_false_eq_true]
    rfl
  -- the default executor does not look at the number of workers
  have fine : (ofWorkers n).fault? = defaults.fault? := rfl
  exact ofDocument_eq_ok.mpr ⟨document, _, text_eq, read, rfl, fine.trans (by decide)⟩

/-! ## Profiles are read back -/

/-- The settings of the text are read as the profile with its rows in some order. -/
theorem ofSettings_sections (bounded : p.Bounded)
    (small : ∀ n ∈ p.executor.numbers, n < Word.signedBound64)
    (names : (p.thresholds.map Prod.fst).Nodup)
    (lower : ∀ row ∈ p.thresholds, lowerText row.1 = row.1)
    (back : Url.ofText? p.target.baseUrl.toText = .ok p.target.baseUrl) {s : Setting}
    (t : TableOf s (p.sections.map fun s => (s.1, ofSection s.2))) :
    ∃ rows, ofSettings s = .ok { p with thresholds := rows } ∧ rows.Perm p.thresholds := by
  obtain ⟨settings, settings_eq, holds⟩ := t.section "LoadTestConfig"
    ["target", "scenario", "executor", "thresholds", "logging", "metrics", "report"]
  have whole {name : String} (mem : name ∈ sectionNames) :
      TableOf (ofSection (p.entriesOf name)) (ofEntries none (p.entriesOf name)) :=
    Setting.tableOf_ofSection (plain_sections bounded small _ (mem_sections mem))
      (nodup_section names _ (mem_sections mem)) (lower_section lower _ (mem_sections mem))
  have section_eq {α : Type} {read : Setting.Decoder α} {a : α} (name : String) (other : α)
      (mem : name ∈ sectionNames) (ok : read (ofSection (p.entriesOf name)) = .ok a) :
      settings.read name read other = .ok a :=
    holds.read_eq (List.mem_map.mpr ⟨_, mem_sections mem, rfl⟩) ok
  obtain ⟨rows, rows_eq, perm⟩ := readThresholds_section (whole (by decide))
  refine ⟨rows, ?_, perm⟩
  simp only [ofSettings, settings_eq, ok_bind,
    section_eq "target" _ (by decide) (readTarget_section bounded back (whole (by decide))),
    section_eq "scenario" _ (by decide) (readScenario_section bounded (whole (by decide))),
    section_eq "executor" _ (by decide) (readExecutor_section bounded (whole (by decide))),
    section_eq "thresholds" _ (by decide) rows_eq,
    section_eq "logging" _ (by decide) (readLogging_section (whole (by decide))),
    section_eq "metrics" _ (by decide) (readExporter_section bounded (whole (by decide))),
    section_eq "report" _ (by decide) (readSummaryPath_section (whole (by decide)))]
  rfl

/-- A profile that was read can be written and is read back. -/
theorem reads_back (read : p.Read) (small : ∀ n ∈ p.executor.numbers, n < Word.signedBound64)
    (lower : ∀ row ∈ p.thresholds, lowerText row.1 = row.1)
    (unreserved : p.thresholds.head?.map Prod.fst ≠ some Toml.momentKey)
    (back : Url.ofText? p.target.baseUrl.toText = .ok p.target.baseUrl) :
    ∃ document rows, p.toDocument = .ok document ∧ rows.Perm p.thresholds ∧
      ofDocument document = .ok { p with thresholds := rows } := by
  have text_eq := ofText_sections read.toBounded small read.nodup unreserved
  obtain ⟨rows, read_eq, perm⟩ := ofSettings_sections read.toBounded small read.nodup lower back
    (tableOf_sections p)
  have again := read.withRows perm
  refine ⟨_, rows, (toDocument_eq_ok read.toBounded).mpr ⟨small, rfl⟩, perm, ?_⟩
  exact ofDocument_eq_ok.mpr ⟨_, _, text_eq, read_eq, withThresholds_of_ne again.named,
    again.faultless⟩

/-- What is read from the settings of a text are the rows of its section of thresholds. -/
theorem readThresholds_of_ofSettings {q : Profile} {s : Setting}
    (t : TableOf s (p.sections.map fun s => (s.1, ofSection s.2))) (ok : ofSettings s = .ok q) :
    readTable (readList readText) (ofSection (p.entriesOf "thresholds")) = .ok q.thresholds := by
  obtain ⟨settings, settings_eq, holds⟩ := t.section "LoadTestConfig"
    ["target", "scenario", "executor", "thresholds", "logging", "metrics", "report"]
  have listed : ("thresholds", p.entriesOf "thresholds") ∈ p.sections := mem_sections (by decide)
  simp only [ofSettings, bind_eq_ok] at ok
  obtain ⟨same, same_eq, target, -, scenario, -, executor, -, rows, rows_read, logging, -,
    exporter, -, summaryPath, -, profile_eq⟩ := ok
  obtain rfl := Except.ok.inj profile_eq
  obtain rfl := Except.ok.inj (settings_eq.symm.trans same_eq)
  rw [Setting.Section.read, holds.found _ _ (List.mem_map.mpr ⟨_, listed, rfl⟩)] at rows_read
  exact mapError_eq_ok.mp rows_read

/-- A profile that is read back has numbers of 63 binary digits and names in lower case, the first
of which is not reserved. -/
theorem of_reads_back (read : p.Read) {document : String} {rows : ThresholdTable}
    (written : p.toDocument = .ok document) (perm : rows.Perm p.thresholds)
    (again : ofDocument document = .ok { p with thresholds := rows }) :
    (∀ n ∈ p.executor.numbers, n < Word.signedBound64) ∧
      (∀ row ∈ p.thresholds, lowerText row.1 = row.1) ∧
      p.thresholds.head?.map Prod.fst ≠ some Toml.momentKey := by
  obtain ⟨small, rfl⟩ := (toDocument_eq_ok read.toBounded).mp written
  obtain ⟨sections, q, text_eq, read_eq, same, -⟩ := ofDocument_eq_ok.mp again
  have unreserved : p.thresholds.head?.map Prod.fst ≠ some Toml.momentKey := by
    intro reserved
    rw [ofText_reserved read.toBounded small read.nodup reserved] at text_eq
    cases text_eq
  refine ⟨small, ?_, unreserved⟩
  rw [ofText_sections read.toBounded small read.nodup unreserved] at text_eq
  obtain rfl := Option.some.inj text_eq
  -- whatever was written, the names are the keys of the joined section, which are in lower case
  obtain ⟨table, place, table_eq, names⟩ :=
    Setting.keys_of_readTable (readThresholds_of_ofSettings (tableOf_sections p) read_eq)
  obtain ⟨rfl, -⟩ := Setting.table.inj table_eq
  have filled : q.thresholds ≠ [] := by
    intro none_read
    rw [none_read] at names
    refine Setting.joinEntries_ne_nil (.inr ?_) (List.map_eq_nil_iff.mp names.symm)
    intro none_written
    have keys := Setting.keys_ofEntries (p.entriesOf "thresholds")
    rw [none_written, keys_thresholds] at keys
    exact read.named (List.map_eq_nil_iff.mp keys.symm)
  rw [withThresholds_of_ne filled] at same
  have rows_eq : q.thresholds = rows := congrArg thresholds same
  obtain ⟨-, lower⟩ := Setting.OrderedKeys.nil.joinEntries.names names
  rw [rows_eq] at lower
  exact fun row mem => lower row (perm.mem_iff.mpr mem)

/-- A profile that was read from a document, with its thresholds in any order, can be written and
is read back with its thresholds in some order exactly if its whole numbers have no more than 63
binary digits, the name of the failed steps is in lower case where the thresholds are the default
ones, and the first series does not have the reserved key as its name. -/
theorem reads_back_iff {text : String} {order : ThresholdTable}
    (read : ofDocument text = .ok p) (perm : order.Perm p.thresholds)
    (back : Url.ofText? p.target.baseUrl.toText = .ok p.target.baseUrl) :
    (∃ document rows, { p with thresholds := order }.toDocument = .ok document ∧
        rows.Perm p.thresholds ∧ ofDocument document = .ok { p with thresholds := rows }) ↔
      (∀ n ∈ p.executor.numbers, n < Word.signedBound64) ∧
        (p.thresholds = .defaults p.scenario.errorSeries →
          lowerText p.scenario.errorSeries = p.scenario.errorSeries) ∧
        order.head?.map Prod.fst ≠ some Toml.momentKey := by
  have ordered := (read_of_ofDocument read).withRows perm
  rw [← lower_iff_of_ofDocument read]
  constructor
  · rintro ⟨document, rows, written, rows_perm, again⟩
    obtain ⟨small, lower, unreserved⟩ :=
      of_reads_back ordered written (rows_perm.trans perm.symm) again
    exact ⟨small, fun row mem => lower row (perm.mem_iff.mpr mem), unreserved⟩
  · rintro ⟨small, lower, unreserved⟩
    obtain ⟨document, rows, written, rows_perm, again⟩ :=
      reads_back ordered small (fun row mem => lower row (perm.mem_iff.mp mem)) unreserved back
    exact ⟨document, rows, written, rows_perm.trans perm, again⟩

/-- The default address is read from its text. -/
theorem defaultUrl_reads_back : Url.ofText? TargetSettings.defaults.baseUrl.toText =
    .ok TargetSettings.defaults.baseUrl := by
  decide +kernel

theorem step_errors_reads_back :
    ofDocument (singleDocument "scenario" "error_metric" "step_errors") =
        .ok (ofSeries "step_errors") ∧
      ∃ document rows,
        { ofSeries "step_errors" with
          thresholds := [("step_errors", ["rate<0.0001"]), ("http_req_duration", ["p(95)<100"]),
            ("http_req_failed", ["rate<0.0001"])] }.toDocument = .ok document ∧
        rows.Perm (ofSeries "step_errors").thresholds ∧
        ofDocument document = .ok { ofSeries "step_errors" with thresholds := rows } := by
  have read : ofDocument (singleDocument "scenario" "error_metric" "step_errors") =
      .ok (ofSeries "step_errors") := ofDocument_series (by decide)
  exact ⟨read, (reads_back_iff read (by decide) defaultUrl_reads_back).mpr
    ⟨by decide, fun _ => by decide, by decide⟩⟩

/-! ## What stands against it -/

/-- A profile that names the series of failed steps is read back exactly if the name is in lower
case. -/
theorem ofSeries_reads_back_iff {series : String} (fine : (ofSeries series).fault? = none) :
    (∃ document rows, (ofSeries series).toDocument = .ok document ∧
        rows.Perm (ofSeries series).thresholds ∧
        ofDocument document = .ok { ofSeries series with thresholds := rows }) ↔
      lowerText series = series := by
  have ok := ofDocument_series fine
  have names := lower_iff_of_ofDocument ok
  constructor
  · rintro ⟨document, rows, written, perm, again⟩
    obtain ⟨-, lower, -⟩ := of_reads_back (read_of_ofDocument ok) written perm again
    exact names.mp lower rfl
  · intro lower
    have small : ∀ n ∈ ExecutorSettings.defaults.numbers, n < Word.signedBound64 := by decide
    have rows_eq : (ofSeries series).thresholds = [("http_req_duration", ["p(95)<100"]),
        ("http_req_failed", ["rate<0.0001"]), (series, ["rate<0.0001"])] :=
      Threshold.defaults_eq (scenario_fine fine)
    have unreserved : "http_req_duration" ≠ Toml.momentKey := by decide
    refine reads_back (read_of_ofDocument ok) small (names.mpr fun _ => lower) ?_
      defaultUrl_reads_back
    rw [rows_eq]
    exact fun same => unreserved (Option.some.inj same)

theorem capitals_not_read_back :
    ofDocument "[scenario]\nerror_metric = \"MyErrors\"\n" = .ok (ofSeries "MyErrors") ∧
      Url.ofText? (ofSeries "MyErrors").target.baseUrl.toText =
        .ok (ofSeries "MyErrors").target.baseUrl ∧
      ¬ ∃ document rows, (ofSeries "MyErrors").toDocument = .ok document ∧
        rows.Perm (ofSeries "MyErrors").thresholds ∧
        ofDocument document = .ok { ofSeries "MyErrors" with thresholds := rows } := by
  have text_eq : singleDocument "scenario" "error_metric" "MyErrors" =
      "[scenario]\nerror_metric = \"MyErrors\"\n" := by decide
  have fine : (ofSeries "MyErrors").fault? = none := by decide
  have capital : lowerText "MyErrors" ≠ "MyErrors" := by decide
  exact ⟨text_eq ▸ ofDocument_series fine, defaultUrl_reads_back,
    fun again => capital ((ofSeries_reads_back_iff fine).mp again)⟩

/-- A number of workers of 64 binary digits is read, but cannot be written. -/
theorem not_written_of_large {n : Nat} (large : Word.signedBound64 ≤ n) (small : n < Word.bound64) :
    ofDocument (singleDocument "executor" "workers" (toString n)) = .ok (ofWorkers n) ∧
      (ofWorkers n).toDocument = .error .numberTooLarge := by
  have ok := ofDocument_workers small
  refine ⟨ok, ?_⟩
  cases written : (ofWorkers n).toDocument with
  | ok text =>
      have numbers := ((toDocument_eq_ok (read_of_ofDocument ok).toBounded).mp written).1
      exact absurd (numbers n (by simp [ExecutorSettings.numbers, ofWorkers])) (not_lt.mpr large)
  | error e =>
      cases e
      rfl

end Profile

end LoadHarness
