import Mathlib
import LoadHarness.Proofs.Profile.Slot
import LoadHarness.Proofs.Profile.Variable

/-!
# Which source of a setting wins

A profile is loaded from a file, where there is one, and from the environment. Each setting has
the value of its variable, else that of the file, else its default, whatever else is set. The
variable that names the file is none of them.
-/

namespace LoadHarness

namespace Profile

open Setting (Addressed IsName Reads Slot assigned? ofVariable ofValue readList readTable readText)

variable {files : FileTree} {environment : List (String × String)} {path origin : Option String}
  {document : TomlEntries} {p : Profile} {source : Option String}

/-! ## Sources -/

/-- A file holds a document; where there is no file, the document is empty. -/
inductive HasDocument (files : FileTree) : Option String → Option String → TomlEntries → Prop where
  | noFile (origin : Option String) : HasDocument files none origin []
  | file {path text : String} {document : TomlEntries} (read : fileText files path = .ok text)
      (parsed : Toml.ofText? text = some document) :
      HasDocument files (some path) (some (originOf path)) document

theorem HasDocument.fileSettings (held : HasDocument files path origin document) :
    fileSettings files path = .ok (Setting.ofDocument origin document) := by
  cases held with
  | noFile => rfl
  | file read parsed =>
      rw [Profile.fileSettings, read, ok_bind, parsed]
      rfl

/-- What is loaded comes from a document of sections and from variables that are addressed to keys
of sections. -/
structure Sourced (files : FileTree) (environment : List (String × String)) (path : Option String)
    (origin : Option String) (document : TomlEntries) : Prop where
  held : HasDocument files (sourcePath environment path) origin document
  sections : document.Sectioned
  addressed : Addressed environment

/-- A profile is loaded from the settings of the document with the variables over them. -/
theorem load_eq_ok (held : HasDocument files (sourcePath environment path) origin document) :
    load files environment path = .ok (p, source) ↔
      source = sourcePath environment path ∧
        ∃ q, ofSettings ((Setting.ofDocument origin document).underEnvironment environment) =
          .ok q ∧ q.withThresholds = p ∧ p.fault? = none := by
  simp only [load, assemble, held.fileSettings, ok_bind, bind_eq_ok]
  constructor
  · rintro ⟨_, same, p', ok, named⟩
    obtain rfl := Except.ok.inj same
    obtain ⟨rfl, rfl⟩ := Prod.mk.inj (Except.ok.inj named)
    exact ⟨rfl, ofLayers_eq_ok.mp ok⟩
  · rintro ⟨rfl, read⟩
    exact ⟨_, rfl, p, ofLayers_eq_ok.mpr read, rfl⟩

/-! ## The variable that names the file -/

theorem slots_named : ∀ row ∈ slots,
    row.1 ∈ sectionNames ∧ IsName row.1 ∧ IsName row.2.key := by
  decide

/-- No key of a section has two slots. -/
theorem slots_nodup : (slots.map fun row => (row.1, row.2.key)).Nodup := by decide

/-- Thresholds stand in no slot. -/
theorem value_withRows {row : String × Slot Profile} (mem : row ∈ slots) (rows : ThresholdTable) :
    row.2.value { p with thresholds := rows } = row.2.value p := by
  simp only [slots, List.mem_append, List.mem_map, or_assoc] at mem
  rcases mem with ⟨f, -, rfl⟩ | ⟨f, -, rfl⟩ | ⟨f, -, rfl⟩ | ⟨f, -, rfl⟩ | ⟨f, -, rfl⟩ |
    ⟨f, -, rfl⟩ <;> rfl

/-- Default thresholds leave every slot. -/
theorem value_withThresholds {row : String × Slot Profile} (mem : row ∈ slots) :
    row.2.value p.withThresholds = row.2.value p := by
  rw [withThresholds]
  split
  · exact value_withRows mem _
  · rfl

/-- What is found at a slot: the variable, or else what the document gives. -/
def found? (row : String × Slot Profile) (environment : List (String × String))
    (origin : Option String) (document : TomlEntries) : Option Setting :=
  ((assigned? row.1 row.2.key environment).map ofVariable).or
    ((document.settingAt? row.1 row.2.key).map (ofValue origin))

theorem settingAt_sources (sections : document.Sectioned) (addressed : Addressed environment)
    {row : String × Slot Profile} (mem : row ∈ slots) :
    Setting.settingAt? row.1 row.2.key
        ((Setting.ofDocument origin document).underEnvironment environment) =
      found? row environment origin document := by
  obtain ⟨named, isName, isKey⟩ := slots_named row mem
  rw [Setting.settingAt_underEnvironment addressed isName isKey,
    Setting.settingAt_ofDocument sections origin named, found?]

/-! ## Thresholds -/

/-- A row of thresholds is a list, which no variable is. -/
theorem readList_ofVariable (text : String) :
    ∃ fault, readList readText (ofVariable text) = .error fault := by
  simp only [ofVariable]
  split
  · exact ⟨_, rfl⟩
  split
  · exact ⟨_, rfl⟩
  split
  · exact ⟨_, rfl⟩
  split <;> exact ⟨_, rfl⟩

/-- Where thresholds are read, no variable is addressed to them. -/
theorem assigned_thresholds {base : Setting} (addressed : Addressed environment)
    {rows : ThresholdTable}
    (ok : readTable (readList readText)
      (.table ((base.underEnvironment environment).sectionAt "thresholds") none) = .ok rows)
    {key : String} (isKey : IsName key) : assigned? "thresholds" key environment = none := by
  cases given : assigned? "thresholds" key environment with
  | none => rfl
  | some text =>
      have found := Setting.settingAt_underEnvironment (s := base) addressed
        (by decide : IsName "thresholds") isKey
      rw [given] at found
      obtain ⟨sources, -, read⟩ := Setting.exists_row ok (Setting.mem_of_valueAt found)
      obtain ⟨fault, refused⟩ := readList_ofVariable text
      cases refused.symm.trans read

/-- The rows of thresholds that a document names. -/
def namedRows (origin : Option String) (document : TomlEntries) :
    Except Setting.Fault ThresholdTable :=
  readTable (readList readText)
    (.table (Setting.joinEntries [] (Setting.ofEntries origin (document.sectionAt "thresholds")))
      none)

/-- Thresholds are read from the rows that a document names, unless a variable is addressed to
them. -/
theorem readThresholds_eq_ok (sections : document.Sectioned) (addressed : Addressed environment)
    {rows : ThresholdTable} :
    readTable (readList readText)
        (.table (((Setting.ofDocument origin document).underEnvironment environment).sectionAt
          "thresholds") none) = .ok rows ↔
      (∀ key, IsName key → assigned? "thresholds" key environment = none) ∧
        namedRows origin document = .ok rows := by
  have alone (unassigned : ∀ key, IsName key → assigned? "thresholds" key environment = none) :
      ((Setting.ofDocument origin document).underEnvironment environment).sectionAt "thresholds" =
        Setting.joinEntries [] (Setting.ofEntries origin (document.sectionAt "thresholds")) := by
    rw [Setting.sectionAt_underEnvironment addressed unassigned,
      Setting.sectionAt_ofDocument sections origin (by decide)]
  constructor
  · intro ok
    have unassigned (key : String) (isKey : IsName key) := assigned_thresholds addressed ok isKey
    rw [alone unassigned] at ok
    exact ⟨unassigned, ok⟩
  · rintro ⟨unassigned, ok⟩
    rw [alone unassigned]
    exact ok

/-! ## Precedence -/

/-- A document with variables over it is read slot by slot, and the thresholds are those that the
document names. -/
theorem ofSettings_sources (sections : document.Sectioned) (addressed : Addressed environment) :
    ofSettings ((Setting.ofDocument origin document).underEnvironment environment) = .ok p ↔
      (∀ row ∈ slots, Reads row.2.read row.2.other (found? row environment origin document)
        (row.2.value p)) ∧
      (∀ key, IsName key → assigned? "thresholds" key environment = none) ∧
      namedRows origin document = .ok p.thresholds := by
  obtain ⟨table, place, layers_eq, -⟩ :=
    Setting.deep_underEnvironment origin document environment
  have sectioned :=
    (Setting.sectioned_ofDocument sections origin).underEnvironment addressed
  rw [layers_eq] at sectioned
  rw [layers_eq, ofSettings_eq_ok sectioned, ← layers_eq,
    readThresholds_eq_ok sections addressed]
  refine and_congr_left fun _ => forall₂_congr fun row mem => ?_
  rw [Slot.Holds, ← Setting.settingAt?, settingAt_sources sections addressed mem]

/-- What is loaded is read slot by slot, and its thresholds are those that the document names. -/
theorem load_iff (sourced : Sourced files environment path origin document) :
    load files environment path = .ok (p, source) ↔
      source = sourcePath environment path ∧ ∃ q : Profile,
        (∀ row ∈ slots, Reads row.2.read row.2.other (found? row environment origin document)
          (row.2.value q)) ∧
        (∀ key, IsName key → assigned? "thresholds" key environment = none) ∧
        namedRows origin document = .ok q.thresholds ∧ q.withThresholds = p ∧
        p.fault? = none := by
  simp only [load_eq_ok sourced.held, ofSettings_sources sourced.sections sourced.addressed,
    and_assoc]

end Profile

end LoadHarness
