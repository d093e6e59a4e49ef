import Mathlib
import LoadHarness.Proofs.Profile.Document

/-!
# Sections are read back

Every value is read from the form in which it is written, and so is every section of a document:
as the settings that it was written from, the thresholds in some order.
-/

namespace LoadHarness

/-! ## Single values -/

section Values

open Setting (readText readBool readNatural readShortNatural readVariant readOptional readList)

variable {origin : Option String}

theorem Setting.readNatural_integer (n : Nat) : readNatural (.integer n origin) = .ok n := by
  rw [readNatural, if_neg (by omega), Int.toNat_natCast]

theorem Setting.readShortNatural_integer {n : Nat} (small : n < Word.bound32) :
    readShortNatural (.integer n origin) = .ok n := by
  rw [readShortNatural, readNatural_integer]
  exact if_pos small

/-- A variant is read from its name where the names differ in more than case. -/
theorem Setting.readVariant_name {α : Type} {kind : String} {name : α → String} {all : List α}
    {a : α} (apart : (all.map fun a => lowerText (name a)).Nodup) (mem : a ∈ all) :
    readVariant kind name all (.text (name a) origin) = .ok a := by
  -- as a table under the lowered names, the variants are found like rows at different keys
  have rows : (all.map fun a => (lowerText (name a), a)).find? (·.1 == lowerText (name a)) =
      some (lowerText (name a), a) :=
    find_of_nodup (by rwa [List.map_map]) (List.mem_map.mpr ⟨a, mem, rfl⟩)
  have found : all.find? (fun b => lowerText (name b) == lowerText (name a)) = some a := by
    rw [List.find?_map] at rows
    obtain ⟨b, found, same⟩ := Option.map_eq_some_iff.mp rows
    obtain rfl := (Prod.mk.inj same).2
    exact found
  rw [readVariant, readVariant.pick, found]

theorem Role.mem_all (role : Role) : role ∈ all := by cases role <;> decide

theorem ExecutorKind.mem_all (kind : ExecutorKind) : kind ∈ all := by cases kind <;> decide

theorem LogFormat.mem_all (format : LogFormat) : format ∈ all := by cases format <;> decide

theorem Profile.readDuration_toText {d : Duration} (fits : d.FitsWord) :
    readDuration (.text d.toText origin) = .ok d := by
  simp only [readDuration, readText, bind, Except.bind, Duration.ofText_toText fits]

theorem Profile.readAddress_toText {a : SocketAddress} (valid : a.IsValid) :
    readAddress (.text a.toText origin) = .ok a := by
  simp only [readAddress, readText, bind, Except.bind, SocketAddress.ofText_toText valid]

theorem Profile.readUrl_toText {url : Url} (back : Url.ofText? url.toText = .ok url) :
    readUrl (.text url.toText origin) = .ok url := by
  simp only [readUrl, readText, bind, Except.bind, back, Except.mapError]

/-- A list of texts is read as the texts. -/
theorem Setting.readList_texts (ss : List String) :
    readList readText (.list (ss.map (.text · none)) none) = .ok ss :=
  readItems_map fun _ => rfl

/-- A text of digits is a natural number. -/
theorem Setting.readNatural_digits {text : String} (filled : text.toList ≠ [])
    (digits : ∀ c ∈ text.toList, c.isDigit = true)
    (small : Decimal.valueOf text.toList ≤ Setting.largest) :
    readNatural (.text text none) = .ok (Decimal.valueOf text.toList) := by
  have lowered : lowerText text = text := by
    refine lowerText_eq_iff.mpr fun c mem => ?_
    have digit := digits c mem
    simp only [Char.isDigit, Bool.and_eq_true, decide_eq_true_eq, UInt32.le_iff_toNat_le] at digit
    have code : 48 ≤ c.toNat ∧ c.toNat ≤ 57 := digit
    exact (isLower_ascii_iff (by omega)).mpr (by omega)
  have unlike : ∀ word ∈ ["true", "on", "yes", "false", "off", "no"], text ≠ word := by
    have letters : ∀ word ∈ ["true", "on", "yes", "false", "off", "no"],
        word.toList.any (!·.isDigit) = true := by decide
    rintro word mem rfl
    obtain ⟨c, there, other⟩ := List.any_eq_true.mp (letters text mem)
    rw [digits c there] at other
    cases other
  simp only [List.forall_mem_cons] at unlike
  obtain ⟨yes, on, true_word, no, off, false_word, -⟩ := unlike
  have natural_eq : Setting.naturalOf? text = some (Decimal.valueOf text.toList) := by
    rw [Setting.naturalOf?]
    split
    · next rest signed =>
      have plus := digits '+' (signed ▸ List.mem_cons_self)
      cases plus
    · simp [filled, List.all_eq_true.mpr digits, not_lt.mpr small]
  simp [readNatural, lowered, natural_eq, yes, on, true_word, no, off, false_word]

theorem Setting.readNatural_toString {n : Nat} (small : n < Word.bound64) :
    readNatural (.text (toString n) none) = .ok n := by
  have value_eq : Decimal.valueOf (toString n).toList = n := by
    rw [toList_toString, Decimal.valueOf_eq, decimalValue_toDigits]
  have read := @readNatural_digits (toString n)
  rw [value_eq, toList_toString] at read
  exact read (List.isEmpty_eq_false_iff.mp (isEmpty_toDigits 10 n))
    (fun c mem => isDigit_of_mem_digits mem) (Nat.le_sub_one_of_lt small)

end Values

namespace Profile

open Setting (ofEntries ofSection ofToml TableOf readText readBool readNatural readShortNatural
  readVariant readOptional readList readTable)

variable {p : Profile}

/-! ## Sections are read back -/

section Sections

variable {s : Setting}

theorem lower_section (lower : ∀ row ∈ p.thresholds, lowerText row.1 = row.1) :
    ∀ s ∈ p.sections, ∀ entry ∈ s.2, lowerText entry.1 = entry.1 := by
  intro s mem entry there
  have key_mem : entry.1 ∈ s.2.map Prod.fst := List.mem_map.mpr ⟨entry, there, rfl⟩
  rcases keys_of_section mem with thresholds | ⟨keys, fixed, sublist⟩
  · rw [thresholds, keys_thresholds] at key_mem
    obtain ⟨row, listed, name_eq⟩ := List.mem_map.mp key_mem
    rw [← name_eq]
    exact lower row listed
  · exact fixedKeys_lower keys fixed entry.1 (sublist.subset key_mem)

theorem readTarget_section (bounded : p.Bounded)
    (back : Url.ofText? p.target.baseUrl.toText = .ok p.target.baseUrl)
    (t : TableOf s (ofEntries none (p.entriesOf "target"))) : readTarget s = .ok p.target := by
  obtain ⟨settings, settings_eq, holds⟩ := t.section "TargetConfig" ["base_url", "request_timeout"]
  have baseUrl (other : Url) : settings.read "base_url" readUrl other = .ok p.target.baseUrl :=
    holds.read_entry 0 rfl (readUrl_toText back)
  have requestTimeout (other : Duration) :
      settings.read "request_timeout" readDuration other = .ok p.target.requestTimeout :=
    holds.read_entry 1 rfl (readDuration_toText bounded.requestTimeout)
  simp only [readTarget, settings_eq, ok_bind, baseUrl, requestTimeout]
  rfl

theorem readScenario_section (bounded : p.Bounded)
    (t : TableOf s (ofEntries none (p.entriesOf "scenario"))) :
    readScenario s = .ok p.scenario := by
  obtain ⟨settings, settings_eq, holds⟩ := t.section "ScenarioConfig"
    ["role", "city", "page", "limit", "optimized_listing", "error_metric"]
  have role (other : Role) :
      settings.read "role" (readVariant "Role" Role.name Role.all) other = .ok p.scenario.role :=
    holds.read_entry 0 rfl (Setting.readVariant_name (by decide) (Role.mem_all _))
  have city (other : String) : settings.read "city" readText other = .ok p.scenario.city :=
    holds.read_entry 1 rfl rfl
  have page (other : Nat) : settings.read "page" readShortNatural other = .ok p.scenario.page :=
    holds.read_entry 2 rfl (Setting.readShortNatural_integer bounded.page)
  have limit (other : Nat) : settings.read "limit" readShortNatural other = .ok p.scenario.limit :=
    holds.read_entry 3 rfl (Setting.readShortNatural_integer bounded.limit)
  have optimizedListing (other : Bool) :
      settings.read "optimized_listing" readBool other = .ok p.scenario.optimizedListing :=
    holds.read_entry 4 rfl rfl
  have errorSeries (other : String) :
      settings.read "error_metric" readText other = .ok p.scenario.errorSeries :=
    holds.read_entry 5 rfl rfl
  simp only [readScenario, settings_eq, ok_bind, role, city, page, limit, optimizedListing,
    errorSeries]
  rfl

theorem readExecutor_section (bounded : p.Bounded)
    (t : TableOf s (ofEntries none (p.entriesOf "executor"))) :
    readExecutor s = .ok p.executor := by
  obtain ⟨settings, settings_eq, holds⟩ := t.section "ExecutorConfig"
    ["kind", "rate", "time_unit", "duration", "pre_allocated_workers", "max_workers",
      "graceful_stop", "iterations", "workers"]
  have kind (other : ExecutorKind) :
      settings.read "kind" (readVariant "ExecutorKind" ExecutorKind.name ExecutorKind.all) other =
        .ok p.executor.kind :=
    holds.read_entry 0 rfl (Setting.readVariant_name (by decide) (ExecutorKind.mem_all _))
  have number {key : String} {n : Nat} (i : Nat) (other : Nat)
      (place : (p.entriesOf "executor")[i]? = some (key, natural n)) :
      settings.read key readNatural other = .ok n :=
    holds.read_entry i place (Setting.readNatural_integer n)
  have duration {key : String} {d : Duration} (i : Nat) (other : Duration) (fits : d.FitsWord)
      (place : (p.entriesOf "executor")[i]? = some (key, durationValue d)) :
      settings.read key readDuration other = .ok d :=
    holds.read_entry i place (readDuration_toText fits)
  simp only [readExecutor, settings_eq, ok_bind, kind, number 1 _ rfl,
    duration 2 _ bounded.timeUnit rfl, duration 3 _ bounded.duration rfl, number 4 _ rfl,
    number 5 _ rfl, duration 6 _ bounded.gracefulStop rfl, number 7 _ rfl, number 8 _ rfl]
  rfl

/-- The rows of the thresholds are read in some order. -/
theorem readThresholds_section (t : TableOf s (ofEntries none (p.entriesOf "thresholds"))) :
    ∃ rows, readTable (readList readText) s = .ok rows ∧ rows.Perm p.thresholds := by
  refine Setting.readTable_of Setting.readList_texts ?_
  have values_eq : ofEntries none (p.entriesOf "thresholds") =
      p.thresholds.map fun row => (row.1, .list (row.2.map (.text · none)) none) := by
    rw [entriesOf_thresholds, Setting.ofEntries_eq_map, List.map_map]
    refine List.map_congr_left fun row _ => ?_
    simp only [Function.comp, ofToml, Setting.ofItems_texts]
  rwa [values_eq] at t

theorem readLogging_section (t : TableOf s (ofEntries none (p.entriesOf "logging"))) :
    readLogging s = .ok p.logging := by
  obtain ⟨settings, settings_eq, holds⟩ :=
    t.section "LoggingConfig" ["directory", "format", "file_prefix"]
  have entries_eq : p.entriesOf "logging" = optionalText "directory" p.logging.directory ++
      [("format", .text p.logging.format.name)] ++
      optionalText "file_prefix" p.logging.filePrefix := rfl
  have directory : settings.read "directory" (readOptional readText) none =
      .ok p.logging.directory := by
    refine holds.read_optional (fun text given => ⟨0, ?_⟩) fun left_out => ?_
    · rw [entries_eq, given]
      rfl
    · rw [entries_eq, left_out]
      cases p.logging.filePrefix <;> simp [optionalText]
  have format (other : LogFormat) : settings.read "format"
      (readVariant "LogFormat" LogFormat.name LogFormat.all) other = .ok p.logging.format := by
    have place : ∃ i : Nat, (p.entriesOf "logging")[i]? =
        some ("format", .text p.logging.format.name) := by
      rw [entries_eq]
      cases p.logging.directory with
      | none => exact ⟨0, rfl⟩
      | some text => exact ⟨1, rfl⟩
    obtain ⟨i, place⟩ := place
    exact holds.read_entry i place
      (Setting.readVariant_name (by decide) (LogFormat.mem_all _))
  have filePrefix : settings.read "file_prefix" (readOptional readText) none =
      .ok p.logging.filePrefix := by
    refine holds.read_optional (fun text given => ?_) fun left_out => ?_
    · rw [entries_eq, given]
      cases p.logging.directory with
      | none => exact ⟨1, rfl⟩
      | some text => exact ⟨2, rfl⟩
    · rw [entries_eq, left_out]
      cases p.logging.directory <;> simp [optionalText]
  simp only [readLogging, settings_eq, ok_bind, LogSettings.defaults, directory, format, filePrefix]
  rfl

theorem readExporter_section (bounded : p.Bounded)
    (t : TableOf s (ofEntries none (p.entriesOf "metrics"))) :
    readExporter s = .ok p.exporter := by
  obtain ⟨settings, settings_eq, holds⟩ := t.section "MetricsConfig" ["enabled", "listen"]
  have enabled (other : Bool) : settings.read "enabled" readBool other = .ok p.exporter.enabled :=
    holds.read_entry 0 rfl rfl
  have listen (other : SocketAddress) :
      settings.read "listen" readAddress other = .ok p.exporter.listen :=
    holds.read_entry 1 rfl (readAddress_toText bounded.listen)
  simp only [readExporter, settings_eq, ok_bind, enabled, listen]
  rfl

theorem readSummaryPath_section (t : TableOf s (ofEntries none (p.entriesOf "report"))) :
    readSummaryPath s = .ok p.summaryPath := by
  obtain ⟨settings, settings_eq, holds⟩ := t.section "ReportConfig" ["summary_path"]
  have entries_eq : p.entriesOf "report" = optionalText "summary_path" p.summaryPath := rfl
  simp only [readSummaryPath, settings_eq, ok_bind]
  refine holds.read_optional (fun text given => ⟨0, ?_⟩) fun left_out => ?_
  · rw [entries_eq, given]
    rfl
  · rw [entries_eq, left_out]
    decide

end Sections

end Profile

end LoadHarness
