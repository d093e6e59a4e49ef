import Mathlib
import LoadHarness.Profile.Document
import LoadHarness.Proofs.Profile.Read
import LoadHarness.Proofs.Toml.Document

/-!
# Documents of profiles

A profile that was read can be written if its whole numbers have no more than 63 binary digits. Its
text is a document whose settings are the sections, unless the first series of the thresholds has
the reserved key as its name.
-/

namespace LoadHarness

/-! ## Settings of a written section -/

namespace Setting

open Toml (Plain)

variable {entries : TomlEntries} {v : TomlValue}

theorem ofItems_texts (ss : List String) :
    ofItems none (ss.map .text) = ss.map (.text · none) := by
  induction ss with
  | nil => rfl
  | cons s ss ih => rw [List.map_cons, ofItems, ih, ofToml, List.map_cons]

theorem ofEntries_eq_map (origin : Option String) (entries : TomlEntries) :
    ofEntries origin entries = entries.map fun entry => (entry.1, ofToml origin entry.2) := by
  induction entries with
  | nil => rfl
  | cons entry entries ih => rw [ofEntries, ih, List.map_cons]

theorem keys_ofEntries (entries : TomlEntries) :
    (ofEntries none entries).map Prod.fst = entries.map Prod.fst := by
  rw [ofEntries_eq_map, List.map_map]
  rfl

/-- A value that is no table is put in place as it is. -/
theorem cover_ofToml (plain : Plain v) : cover none (ofToml none v) = ofToml none v := by
  cases plain with
  | text s => rfl
  | bool b => rfl
  | natural small => rfl
  | texts ss => rfl

/-- The setting of a section that is read from a document. -/
def ofSection (entries : TomlEntries) : Setting :=
  .table (joinEntries [] (ofEntries none entries)) none

/-- Joined entries with different keys in lower case are a table of them. -/
theorem tableOf_joinEntries {entries : List (String × Setting)}
    (nodup : (entries.map Prod.fst).Nodup)
    (lower : ∀ entry ∈ entries, lowerText entry.1 = entry.1) :
    TableOf (.table (joinEntries [] entries) none)
      (entries.map fun entry => (entry.1, cover none entry.2)) := by
  refine ⟨_, none, rfl, joinEntries_perm lower nodup, ?_⟩
  rw [List.map_map]
  exact nodup

/-- A section with different keys in lower case holds its entries. -/
theorem tableOf_ofSection (plain : ∀ entry ∈ entries, Plain entry.2)
    (nodup : (entries.map Prod.fst).Nodup)
    (lower : ∀ entry ∈ entries, lowerText entry.1 = entry.1) :
    TableOf (ofSection entries) (ofEntries none entries) := by
  have covered : (ofEntries none entries).map (fun entry => (entry.1, cover none entry.2)) =
      ofEntries none entries := by
    rw [ofEntries_eq_map, List.map_map]
    refine List.map_congr_left fun entry mem => ?_
    exact congrArg (Prod.mk entry.1) (cover_ofToml (plain entry mem))
  have joined := @tableOf_joinEntries (ofEntries none entries) (by rwa [keys_ofEntries])
    fun entry mem => ?_
  · rwa [covered] at joined
  · rw [ofEntries_eq_map] at mem
    obtain ⟨written, there, rfl⟩ := List.mem_map.mp mem
    exact lower written there

/-- A setting that is written at some place is read. -/
theorem Section.Holds.read_entry {settings : Section} {key : String} {α : Type} {read : Decoder α}
    {other a : α} (holds : settings.Holds (ofEntries none entries)) (i : Nat)
    (place : entries[i]? = some (key, v)) (ok : read (ofToml none v) = .ok a) :
    settings.read key read other = .ok a := by
  refine holds.read_eq ?_ ok
  rw [ofEntries_eq_map]
  exact List.mem_map.mpr ⟨(key, v), List.mem_of_getElem? place, rfl⟩

/-- A text that may be absent is read as it was written. -/
theorem Section.Holds.read_optional {settings : Section} {key : String} {value : Option String}
    (holds : settings.Holds (ofEntries none entries))
    (written : ∀ text, value = some text → ∃ i : Nat, entries[i]? = some (key, TomlValue.text text))
    (absent : value = none → key ∉ entries.map Prod.fst) :
    settings.read key (readOptional readText) none = .ok value := by
  cases value with
  | none =>
      refine holds.read_default ?_
      rw [keys_ofEntries]
      exact absent rfl
  | some text =>
      obtain ⟨i, place⟩ := written text rfl
      exact holds.read_entry i place rfl

/-- A name without points and brackets is a path of one step. -/
theorem pathOf_of_nameChars {name : String} (filled : name.toList ≠ [])
    (plain : name.toList.all isNameChar = true) : pathOf name = [.name name] := by
  have apart := span_all (List.all_eq_true.mp plain)
  have rest : steps? 1 [] = some [] := rfl
  simp only [pathOf, apart, List.isEmpty_eq_false_iff.mpr filled, List.length_nil]
  simp [rest]

/-- A document of sections under different plain names in lower case holds them. -/
theorem tableOf_layer {sections : List (String × TomlEntries)}
    (names : (sections.map Prod.fst).Nodup)
    (lower : ∀ s ∈ sections, lowerText s.1 = s.1)
    (paths : ∀ s ∈ sections, pathOf s.1 = [.name s.1]) :
    TableOf (layer (.table [] none) (ofEntries none (sections.map Toml.underHeader)))
      (sections.map fun s => (s.1, ofSection s.2)) := by
  have entries_eq : ofEntries none (sections.map Toml.underHeader) =
      sections.map fun s => (s.1, .table (ofEntries none s.2) none) := by
    rw [ofEntries_eq_map, List.map_map]
    rfl
  have joined := @tableOf_joinEntries
    (sections.map fun s => (s.1, .table (ofEntries none s.2) none)) ?_ ?_
  · rw [List.map_map] at joined
    rw [entries_eq, layer_of_names]
    · convert joined using 3 with s
      exact congrArg (Prod.mk s.1) (cover_table _ _).symm
    · intro entry mem
      obtain ⟨s, there, rfl⟩ := List.mem_map.mp mem
      exact paths s there
  · rw [List.map_map]
    exact names
  · intro entry mem
    obtain ⟨s, there, rfl⟩ := List.mem_map.mp mem
    exact lower s there

end Setting

/-- The whole numbers of an executor. -/
def ExecutorSettings.numbers (s : ExecutorSettings) : List Nat :=
  [s.rate, s.preAllocatedWorkers, s.maxWorkers, s.iterations, s.workers]

namespace Profile

open Setting (ofEntries ofSection TableOf)
open Toml (Plain)

variable {p : Profile}

/-! ## What is written -/

/-- The names of the sections in order. -/
def sectionNames : List String :=
  ["target", "scenario", "executor", "thresholds", "logging", "metrics", "report"]

theorem map_sections (p : Profile) : p.sections.map Prod.fst = sectionNames := rfl

theorem nodup_sections (p : Profile) : (p.sections.map Prod.fst).Nodup := by
  rw [map_sections]
  decide

theorem sectionNames_lower : ∀ name ∈ sectionNames, lowerText name = name := by decide

theorem sectionNames_plain : ∀ name ∈ sectionNames,
    name.toList ≠ [] ∧ name.toList.all Setting.isNameChar = true := by decide

/-- What is written into a section. -/
def entriesOf (p : Profile) (name : String) : TomlEntries :=
  ((p.sections.find? (·.1 == name)).map Prod.snd).getD []

theorem mem_sections {name : String} (mem : name ∈ sectionNames) :
    (name, p.entriesOf name) ∈ p.sections := by
  rw [← map_sections p] at mem
  obtain ⟨s, there, rfl⟩ := List.mem_map.mp mem
  have found := Setting.find_of_nodup (nodup_sections p) there
  rw [entriesOf, found]
  exact there

/-- The keys of the sections but the thresholds. -/
def fixedKeys : List (List String) :=
  [["base_url", "request_timeout"],
    ["role", "city", "page", "limit", "optimized_listing", "error_metric"],
    ["kind", "rate", "time_unit", "duration", "pre_allocated_workers", "max_workers",
      "graceful_stop", "iterations", "workers"],
    ["directory", "format", "file_prefix"], ["enabled", "listen"], ["summary_path"]]

theorem fixedKeys_nodup : ∀ keys ∈ fixedKeys, keys.Nodup := by decide

theorem fixedKeys_lower : ∀ keys ∈ fixedKeys, ∀ key ∈ keys, lowerText key = key := by
  decide

theorem fixedKeys_unreserved : ∀ keys ∈ fixedKeys, Toml.momentKey ∉ keys := by decide

theorem keys_optionalText (key : String) (value : Option String) :
    ((optionalText key value).map Prod.fst).Sublist [key] := by
  cases value with
  | none => exact List.nil_sublist _
  | some s => exact List.Sublist.refl _

/-- Every section but the thresholds has fixed keys, some of which may be left out. -/
theorem keys_of_section {s : String × TomlEntries} (mem : s ∈ p.sections) :
    s.2 = p.entriesOf "thresholds" ∨
      ∃ keys ∈ fixedKeys, (s.2.map Prod.fst).Sublist keys := by
  simp only [sections, List.mem_cons, List.not_mem_nil, or_false] at mem
  rcases mem with rfl | rfl | rfl | rfl | rfl | rfl | rfl
  · exact .inr ⟨_, .head _, .refl _⟩
  · exact .inr ⟨_, .tail _ (.head _), .refl _⟩
  · exact .inr ⟨_, .tail _ (.tail _ (.head _)), .refl _⟩
  · exact .inl rfl
  · refine .inr ⟨["directory", "format", "file_prefix"], by decide, ?_⟩
    simp only [List.map_append]
    exact ((keys_optionalText _ _).append (.refl ["format"])).append (keys_optionalText _ _)
  · exact .inr ⟨_, .tail _ (.tail _ (.tail _ (.tail _ (.head _)))), .refl _⟩
  · exact .inr ⟨["summary_path"], by decide, keys_optionalText _ _⟩

/-! ## Whether a profile can be written -/

theorem isWritable_natural {n : Nat} :
    isWritable (natural n) = true ↔ n < Word.signedBound64 := by
  rw [natural, isWritable, decide_eq_true_iff, Int.ofNat_lt]

theorem isWritable_of_plain {v : TomlValue} (plain : Plain v) : isWritable v = true := by
  cases plain with
  | text s => rfl
  | bool b => rfl
  | natural small => exact isWritable_natural.mpr small
  | texts ss => rfl

theorem plain_optionalText (key : String) (value : Option String) :
    ∀ entry ∈ optionalText key value, Plain entry.2 := by
  cases value with
  | none => exact List.forall_mem_nil _
  | some s => exact List.forall_mem_singleton.mpr (.text s)

/-- Numbers of 32 binary digits have no more than 63. -/
theorem plain_of_lt_bound32 {n : Nat} (small : n < Word.bound32) : Plain (natural n) :=
  .natural (small.trans (by decide))

/-- The values of a profile that was read are plain if its numbers have no more than 63 binary
digits. -/
theorem plain_sections (bounded : p.Bounded)
    (small : ∀ n ∈ p.executor.numbers, n < Word.signedBound64) :
    ∀ s ∈ p.sections, ∀ entry ∈ s.2, Plain entry.2 := by
  simp only [ExecutorSettings.numbers, List.forall_mem_cons] at small
  obtain ⟨rate, allocated, most, iterations, workers, -⟩ := small
  simp only [sections, List.forall_mem_cons, List.forall_mem_append, List.forall_mem_map]
  refine ⟨⟨.text _, .text _, List.forall_mem_nil _⟩,
    ⟨.text _, .text _, plain_of_lt_bound32 bounded.page, plain_of_lt_bound32 bounded.limit, .bool _,
      .text _, List.forall_mem_nil _⟩,
    ⟨.text _, .natural rate, .text _, .text _, .natural allocated, .natural most, .text _,
      .natural iterations, .natural workers, List.forall_mem_nil _⟩,
    fun row _ => .texts row.2,
    ⟨⟨plain_optionalText _ _, .text _, List.forall_mem_nil _⟩, plain_optionalText _ _⟩,
    ⟨.bool _, .text _, List.forall_mem_nil _⟩, plain_optionalText _ _, List.forall_mem_nil _⟩

theorem numbers_written (p : Profile) :
    ∀ n ∈ p.executor.numbers, natural n ∈ (p.entriesOf "executor").map Prod.snd := by
  simp [ExecutorSettings.numbers, entriesOf, sections]

/-- A profile that was read can be written if its numbers have no more than 63 binary digits. -/
theorem toDocument_eq_ok (bounded : p.Bounded) {document : String} :
    p.toDocument = .ok document ↔
      (∀ n ∈ p.executor.numbers, n < Word.signedBound64) ∧
        Toml.sectionsText p.sections = document := by
  have writable_iff : (p.sections.all fun s => s.2.all fun e => isWritable e.2) = true ↔
      ∀ n ∈ p.executor.numbers, n < Word.signedBound64 := by
    simp only [List.all_eq_true]
    constructor
    · intro writable n mem
      obtain ⟨entry, there, value_eq⟩ := List.mem_map.mp (numbers_written p n mem)
      have listed : ("executor", p.entriesOf "executor") ∈ p.sections := mem_sections (by decide)
      exact isWritable_natural.mp (value_eq ▸ writable _ listed entry there)
    · intro small s mem entry there
      exact isWritable_of_plain (plain_sections bounded small s mem entry there)
  rw [toDocument]
  split
  · next writable =>
    exact ⟨fun same => ⟨writable_iff.mp writable, Except.ok.inj same⟩,
      fun both => congrArg Except.ok both.2⟩
  · next refused =>
    constructor
    · rintro ⟨⟩
    · rintro ⟨small, -⟩
      exact absurd (writable_iff.mpr small) refused

/-! ## Sections of a document -/

theorem entriesOf_thresholds (p : Profile) :
    p.entriesOf "thresholds" = p.thresholds.map fun row => (row.1, .array (row.2.map .text)) := rfl

/-- Keys of the section of thresholds are the names of their series. -/
theorem keys_thresholds (p : Profile) :
    (p.entriesOf "thresholds").map Prod.fst = p.thresholds.map Prod.fst := by
  rw [entriesOf_thresholds, List.map_map]
  rfl

theorem nodup_section (names : (p.thresholds.map Prod.fst).Nodup) :
    ∀ s ∈ p.sections, (s.2.map Prod.fst).Nodup := by
  intro s mem
  rcases keys_of_section mem with thresholds | ⟨keys, fixed, sublist⟩
  · rwa [thresholds, keys_thresholds]
  · exact (fixedKeys_nodup keys fixed).sublist sublist

/-- The settings that are found in the text of a profile. -/
theorem ofText_sections (bounded : p.Bounded)
    (small : ∀ n ∈ p.executor.numbers, n < Word.signedBound64)
    (names : (p.thresholds.map Prod.fst).Nodup)
    (unreserved : p.thresholds.head?.map Prod.fst ≠ some Toml.momentKey) :
    Toml.ofText? (Toml.sectionsText p.sections) = some (p.sections.map Toml.underHeader) := by
  have plain := plain_sections bounded small
  refine Toml.ofText_of_plain (nodup_sections p) (nodup_section names) plain (fun s mem => ?_) ?_
  · rw [← List.head?_map]
    rcases keys_of_section mem with thresholds | ⟨keys, fixed, sublist⟩
    · rwa [thresholds, keys_thresholds, List.head?_map]
    · intro reserved
      exact fixedKeys_unreserved keys fixed (sublist.subset (List.mem_of_head? reserved))
  · rw [← List.head?_map, map_sections]
    decide

/-- The reserved key as the first one of the thresholds makes the text no document. -/
theorem ofText_reserved (bounded : p.Bounded)
    (small : ∀ n ∈ p.executor.numbers, n < Word.signedBound64)
    (names : (p.thresholds.map Prod.fst).Nodup)
    (reserved : p.thresholds.head?.map Prod.fst = some Toml.momentKey) :
    Toml.ofText? (Toml.sectionsText p.sections) = none := by
  rw [Toml.ofText_sectionsText (nodup_sections p) (nodup_section names)
    (plain_sections bounded small)]
  obtain ⟨row, first, key_eq⟩ := Option.map_eq_some_iff.mp reserved
  obtain ⟨rows, rows_eq⟩ := List.head?_eq_some_iff.mp first
  have mem : ("thresholds", p.entriesOf "thresholds") ∈ p.sections := mem_sections (by decide)
  rw [entriesOf_thresholds, rows_eq, List.map_cons, key_eq] at mem
  exact Toml.resolveDocument_reserved mem

/-- The settings of the text are a table of the sections. -/
theorem tableOf_sections (p : Profile) :
    TableOf (Setting.layer (.table [] none) (ofEntries none (p.sections.map Toml.underHeader)))
      (p.sections.map fun s => (s.1, ofSection s.2)) := by
  have name_mem : ∀ s ∈ p.sections, s.1 ∈ sectionNames := fun s mem =>
    map_sections p ▸ List.mem_map.mpr ⟨s, mem, rfl⟩
  refine Setting.tableOf_layer (nodup_sections p)
    (fun s mem => sectionNames_lower s.1 (name_mem s mem)) fun s mem => ?_
  obtain ⟨filled, plain⟩ := sectionNames_plain s.1 (name_mem s mem)
  exact Setting.pathOf_of_nameChars filled plain

end Profile

end LoadHarness
