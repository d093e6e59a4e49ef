import Mathlib
import LoadHarness.Proofs.Profile.Lookup
import LoadHarness.Proofs.Threshold.Table

/-!
# The slots of a profile

Each slot of a profile stands at a key of a section. A profile is read from settings exactly if
each slot is read from what is found at its key, or has its default where nothing is found, and
the thresholds are read from the rows of theirs.
-/

namespace LoadHarness

namespace Setting

/-! ## Slots -/

/-- What is read where a setting may be missing: its value, or else a default. -/
def Reads {α : Type} (read : Decoder α) (other : α) : Option Setting → α → Prop
  | some s, a => read s = .ok a
  | none, a => a = other

/-- A value that is read from the setting at a key. -/
structure Slot (σ : Type) where
  Value : Type
  key : String
  read : Decoder Value
  other : Value
  value : σ → Value

namespace Slot

variable {σ ρ : Type}

/-- The value is read from the setting at its key, or it is the default. -/
def Holds (f : Slot σ) (entries : List (String × Setting)) (a : σ) : Prop :=
  Reads f.read f.other (valueAt? f.key entries) (f.value a)

/-- The same slot of what the value is a part of. -/
def within (part : ρ → σ) (f : Slot σ) : Slot ρ := { f with value := f.value ∘ part }

end Slot

variable {α : Type} {key name : String} {entries : List (String × Setting)} {s : Setting}
  {read : Decoder α} {other a : α}

/-- Settings of a section are read from what is found at their keys. -/
theorem Section.read_eq_ok :
    Section.read (entries.map fun entry => (entry.1, .name entry.1, entry.2)) key read other =
        .ok a ↔
      Reads read other (valueAt? key entries) a := by
  rw [Section.read, List.find?_map, valueAt?]
  have same : ((fun row : String × PathStep × Setting => row.1 == key) ∘
      fun entry : String × Setting => (entry.1, .name entry.1, entry.2)) = (·.1 == key) := rfl
  rw [same]
  cases List.find? (·.1 == key) entries with
  | none => exact ⟨fun ok => (Except.ok.inj ok).symm, fun default => congrArg _ default.symm⟩
  | some entry => exact mapError_eq_ok

/-- A section that is a table or not there is read from its entries. -/
theorem Sectioned.reads_iff {names : List String} (sectioned : Sectioned names s)
    (mem : name ∈ names) (empty : read (.table [] none) = .ok other)
    (anywhere : ∀ entries origin, read (.table entries origin) = read (.table entries none)) :
    Reads read other (valueAt? name s.entries) a ↔
      read (.table (s.sectionAt name) none) = .ok a := by
  rw [sectionAt]
  cases found : valueAt? name s.entries with
  | none =>
      refine ⟨?_, fun ok => ?_⟩
      · rintro rfl
        exact empty
      · exact Except.ok.inj (ok.symm.trans empty)
  | some section_ =>
      obtain ⟨table, origin, rfl⟩ := sectioned name mem section_ found
      rw [Reads, anywhere]
      rfl

/-- A table is read row by row, each entry under its key. -/
theorem readTable_eq_ok {origin : Option String} {rows : List (String × α)} :
    readTable read (.table entries origin) = .ok rows ↔
      List.Forall₂ (fun entry row => row.1 = entry.1 ∧ read entry.2 = .ok row.2) entries rows := by
  have each (entry : String × Setting) (row : String × α) :
      ((read entry.2).mapError (·.under (.name entry.1))).map (fun a => (entry.1, a)) = .ok row ↔
        row.1 = entry.1 ∧ read entry.2 = .ok row.2 := by
    rw [map_eq_ok]
    constructor
    · rintro ⟨a, ok, rfl⟩
      exact ⟨rfl, mapError_eq_ok.mp ok⟩
    · rintro ⟨same, ok⟩
      exact ⟨row.2, mapError_eq_ok.mpr ok, Prod.ext same.symm rfl⟩
  simp only [readTable, mapM_eq_ok_iff, each]

/-- A table is read if each entry is. -/
theorem exists_readTable {origin : Option String}
    (each : ∀ entry ∈ entries, ∃ a, read entry.2 = .ok a) :
    ∃ rows, readTable read (.table entries origin) = .ok rows := by
  refine exists_mapM fun entry mem => ?_
  obtain ⟨a, ok⟩ := each entry mem
  exact ⟨(entry.1, a), map_eq_ok.mpr ⟨a, mapError_eq_ok.mpr ok, rfl⟩⟩

/-- Every entry of a table that is read has a row. -/
theorem exists_row {origin : Option String} {rows : List (String × α)}
    (ok : readTable read (.table entries origin) = .ok rows) {entry : String × Setting}
    (mem : entry ∈ entries) : ∃ a, (entry.1, a) ∈ rows ∧ read entry.2 = .ok a := by
  obtain ⟨row, listed, same, read_eq⟩ := exists_of_forall₂ (readTable_eq_ok.mp ok) mem
  exact ⟨row.2, same ▸ listed, read_eq⟩

end Setting

namespace Profile

open Setting (Slot Reads readText readBool readNatural readShortNatural readVariant readOptional
  readList readTable readSection)

/-! ## The slots of each section

The slots that results name have names of their own. -/

def requestTimeoutSlot : Slot TargetSettings :=
  ⟨_, "request_timeout", readDuration, TargetSettings.defaults.requestTimeout, (·.requestTimeout)⟩

def targetSlots : List (Slot TargetSettings) :=
  [⟨_, "base_url", readUrl, TargetSettings.defaults.baseUrl, (·.baseUrl)⟩, requestTimeoutSlot]

def citySlot : Slot ScenarioSettings :=
  ⟨_, "city", readText, ScenarioSettings.defaults.city, (·.city)⟩

def pageSlot : Slot ScenarioSettings :=
  ⟨_, "page", readShortNatural, ScenarioSettings.defaults.page, (·.page)⟩

def limitSlot : Slot ScenarioSettings :=
  ⟨_, "limit", readShortNatural, ScenarioSettings.defaults.limit, (·.limit)⟩

def optimizedListingSlot : Slot ScenarioSettings :=
  ⟨_, "optimized_listing", readBool, ScenarioSettings.defaults.optimizedListing,
    (·.optimizedListing)⟩

def errorSeriesSlot : Slot ScenarioSettings :=
  ⟨_, "error_metric", readText, ScenarioSettings.defaults.errorSeries, (·.errorSeries)⟩

def scenarioSlots : List (Slot ScenarioSettings) :=
  [⟨_, "role", readVariant "Role" Role.name Role.all, ScenarioSettings.defaults.role, (·.role)⟩,
    citySlot, pageSlot, limitSlot, optimizedListingSlot, errorSeriesSlot]

def executorSlots : List (Slot ExecutorSettings) :=
  let d := ExecutorSettings.defaults
  [⟨_, "kind", readVariant "ExecutorKind" ExecutorKind.name ExecutorKind.all, d.kind, (·.kind)⟩,
    ⟨_, "rate", readNatural, d.rate, (·.rate)⟩,
    ⟨_, "time_unit", readDuration, d.timeUnit, (·.timeUnit)⟩,
    ⟨_, "duration", readDuration, d.duration, (·.duration)⟩,
    ⟨_, "pre_allocated_workers", readNatural, d.preAllocatedWorkers, (·.preAllocatedWorkers)⟩,
    ⟨_, "max_workers", readNatural, d.maxWorkers, (·.maxWorkers)⟩,
    ⟨_, "graceful_stop", readDuration, d.gracefulStop, (·.gracefulStop)⟩,
    ⟨_, "iterations", readNatural, d.iterations, (·.iterations)⟩,
    ⟨_, "workers", readNatural, d.workers, (·.workers)⟩]

def directorySlot : Slot LogSettings :=
  ⟨_, "directory", readOptional readText, LogSettings.defaults.directory, (·.directory)⟩

def filePrefixSlot : Slot LogSettings :=
  ⟨_, "file_prefix", readOptional readText, LogSettings.defaults.filePrefix, (·.filePrefix)⟩

def loggingSlots : List (Slot LogSettings) :=
  [directorySlot,
    ⟨_, "format", readVariant "LogFormat" LogFormat.name LogFormat.all, LogSettings.defaults.format,
      (·.format)⟩,
    filePrefixSlot]

def exporterSlots : List (Slot ExporterSettings) :=
  [⟨_, "enabled", readBool, ExporterSettings.defaults.enabled, (·.enabled)⟩,
    ⟨_, "listen", readAddress, ExporterSettings.defaults.listen, (·.listen)⟩]

def summaryPathSlot : Slot (Option String) :=
  ⟨_, "summary_path", readOptional readText, none, id⟩

def reportSlots : List (Slot (Option String)) := [summaryPathSlot]

/-- The slots of a profile, each with the name of its section. -/
def slots : List (String × Slot Profile) :=
  (targetSlots.map fun f => ("target", f.within target)) ++
    (scenarioSlots.map fun f => ("scenario", f.within scenario)) ++
    (executorSlots.map fun f => ("executor", f.within executor)) ++
    (loggingSlots.map fun f => ("logging", f.within logging)) ++
    (exporterSlots.map fun f => ("metrics", f.within exporter)) ++
    (reportSlots.map fun f => ("report", f.within summaryPath))

section Sections

variable {entries : List (String × Setting)}

theorem readTarget_eq_ok {a : TargetSettings} :
    readTarget (.table entries none) = .ok a ↔ ∀ f ∈ targetSlots, f.Holds entries a := by
  simp only [readTarget, readSection, ok_bind, bind_eq_ok, Setting.Section.read_eq_ok, targetSlots,
    List.forall_mem_cons, Slot.Holds]
  constructor
  · rintro ⟨_, url, _, timeout, same⟩
    obtain rfl := Except.ok.inj same
    exact ⟨url, timeout, fun _ mem => absurd mem List.not_mem_nil⟩
  · rintro ⟨url, timeout, -⟩
    exact ⟨_, url, _, timeout, rfl⟩

theorem readScenario_eq_ok {a : ScenarioSettings} :
    readScenario (.table entries none) = .ok a ↔ ∀ f ∈ scenarioSlots, f.Holds entries a := by
  simp only [readScenario, readSection, ok_bind, bind_eq_ok, Setting.Section.read_eq_ok,
    scenarioSlots, List.forall_mem_cons, Slot.Holds]
  constructor
  · rintro ⟨_, role, _, city, _, page, _, limit, _, listing, _, series, same⟩
    obtain rfl := Except.ok.inj same
    exact ⟨role, city, page, limit, listing, series, fun _ mem => absurd mem List.not_mem_nil⟩
  · rintro ⟨role, city, page, limit, listing, series, -⟩
    exact ⟨_, role, _, city, _, page, _, limit, _, listing, _, series, rfl⟩

theorem readExecutor_eq_ok {a : ExecutorSettings} :
    readExecutor (.table entries none) = .ok a ↔ ∀ f ∈ executorSlots, f.Holds entries a := by
  simp only [readExecutor, readSection, ok_bind, bind_eq_ok, Setting.Section.read_eq_ok,
    executorSlots, List.forall_mem_cons, Slot.Holds]
  constructor
  · rintro ⟨_, kind, _, rate, _, timeUnit, _, duration, _, allocated, _, most, _, gracefulStop, _,
      iterations, _, workers, same⟩
    obtain rfl := Except.ok.inj same
    exact ⟨kind, rate, timeUnit, duration, allocated, most, gracefulStop, iterations, workers,
      fun _ mem => absurd mem List.not_mem_nil⟩
  · rintro ⟨kind, rate, timeUnit, duration, allocated, most, gracefulStop, iterations, workers, -⟩
    exact ⟨_, kind, _, rate, _, timeUnit, _, duration, _, allocated, _, most, _, gracefulStop, _,
      iterations, _, workers, rfl⟩

theorem readLogging_eq_ok {a : LogSettings} :
    readLogging (.table entries none) = .ok a ↔ ∀ f ∈ loggingSlots, f.Holds entries a := by
  simp only [readLogging, readSection, ok_bind, bind_eq_ok, Setting.Section.read_eq_ok,
    loggingSlots, List.forall_mem_cons, Slot.Holds]
  constructor
  · rintro ⟨_, directory, _, format, _, filePrefix, same⟩
    obtain rfl := Except.ok.inj same
    exact ⟨directory, format, filePrefix, fun _ mem => absurd mem List.not_mem_nil⟩
  · rintro ⟨directory, format, filePrefix, -⟩
    exact ⟨_, directory, _, format, _, filePrefix, rfl⟩

theorem readExporter_eq_ok {a : ExporterSettings} :
    readExporter (.table entries none) = .ok a ↔ ∀ f ∈ exporterSlots, f.Holds entries a := by
  simp only [readExporter, readSection, ok_bind, bind_eq_ok, Setting.Section.read_eq_ok,
    exporterSlots, List.forall_mem_cons, Slot.Holds]
  constructor
  · rintro ⟨_, enabled, _, listen, same⟩
    obtain rfl := Except.ok.inj same
    exact ⟨enabled, listen, fun _ mem => absurd mem List.not_mem_nil⟩
  · rintro ⟨enabled, listen, -⟩
    exact ⟨_, enabled, _, listen, rfl⟩

theorem readSummaryPath_eq_ok {a : Option String} :
    readSummaryPath (.table entries none) = .ok a ↔ ∀ f ∈ reportSlots, f.Holds entries a := by
  simp only [readSummaryPath, readSection, ok_bind, Setting.Section.read_eq_ok, reportSlots,
    List.forall_mem_cons, Slot.Holds]
  exact ⟨fun path => ⟨path, fun _ mem => absurd mem List.not_mem_nil⟩, fun each => each.1⟩

end Sections

/-! ## All slots -/

/-- Slots of a part are slots of the whole. -/
theorem forall_within {σ : Type} {part : Profile → σ} {fs : List (Slot σ)} {name : String}
    {p : Profile} {s : Setting} :
    (∀ row ∈ fs.map fun f => (name, f.within part), row.2.Holds (s.sectionAt row.1) p) ↔
      ∀ f ∈ fs, f.Holds (s.sectionAt name) (part p) := by
  rw [List.forall_mem_map]
  rfl

/-- A profile is read exactly if each slot is read, and its thresholds are. -/
theorem ofSettings_eq_ok {table : List (String × Setting)} {origin : Option String} {p : Profile}
    (sectioned : Setting.Sectioned sectionNames (.table table origin)) :
    ofSettings (.table table origin) = .ok p ↔
      (∀ row ∈ slots, row.2.Holds ((Setting.table table origin).sectionAt row.1) p) ∧
        readTable (readList readText)
          (.table ((Setting.table table origin).sectionAt "thresholds") none) =
            .ok p.thresholds := by
  have part {α : Type} {a : α} (name : String) (read : Setting.Decoder α) (other : α)
      (mem : name ∈ sectionNames) (empty : read (.table [] none) = .ok other)
      (anywhere : ∀ entries origin, read (.table entries origin) = read (.table entries none)) :=
    sectioned.reads_iff (a := a) mem empty anywhere
  simp only [slots, List.forall_mem_append, forall_within]
  rw [← readTarget_eq_ok, ← readScenario_eq_ok, ← readExecutor_eq_ok, ← readLogging_eq_ok,
    ← readExporter_eq_ok, ← readSummaryPath_eq_ok]
  rw [← part "target" readTarget .defaults (by decide) rfl fun _ _ => rfl,
    ← part "scenario" readScenario .defaults (by decide) rfl fun _ _ => rfl,
    ← part "executor" readExecutor .defaults (by decide) rfl fun _ _ => rfl,
    ← part "logging" readLogging .defaults (by decide) rfl fun _ _ => rfl,
    ← part "metrics" readExporter .defaults (by decide) rfl fun _ _ => rfl,
    ← part "report" readSummaryPath none (by decide) rfl fun _ _ => rfl,
    ← part "thresholds" (readTable (readList readText)) [] (by decide) rfl fun _ _ => rfl]
  simp only [ofSettings, readSection, ok_bind, bind_eq_ok, Setting.Section.read_eq_ok]
  constructor
  · rintro ⟨_, target, _, scenario, _, executor, _, thresholds, _, logging, _, exporter, _, report,
      same⟩
    obtain rfl := Except.ok.inj same
    exact ⟨⟨⟨⟨⟨⟨target, scenario⟩, executor⟩, logging⟩, exporter⟩, report⟩, thresholds⟩
  · rintro ⟨⟨⟨⟨⟨⟨target, scenario⟩, executor⟩, logging⟩, exporter⟩, report⟩, thresholds⟩
    exact ⟨_, target, _, scenario, _, executor, _, thresholds, _, logging, _, exporter, _, report,
      rfl⟩

end Profile

end LoadHarness
