import Mathlib
import LoadHarness.Proofs.Profile.Precedence

/-!
# Texts from the environment

A variable is taken as a truth value or a number wherever it can be, and where a text is asked for
that is printed anew. So a variable gives the same as a file with the text that is printed; its own
text, which the file would keep, may be lost on the way.
-/

namespace LoadHarness

namespace Setting

/-- The text that a variable comes to. -/
def reprinted (text : String) : String :=
  match ofVariable text with
  | .bool b _ => if b then "true" else "false"
  | .integer n _ => toString n
  | .real x _ => x.toText
  | _ => text

theorem readText_ofVariable (text : String) :
    readText (ofVariable text) = .ok (reprinted text) := by
  simp only [reprinted, ofVariable]
  split
  · rfl
  split
  · rfl
  split
  · rfl
  split <;> rfl

/-- Zeros in front and capitals of truth values are lost, other texts are kept. -/
example : reprinted "007" = "7" ∧ reprinted "TRUE" = "true" ∧ reprinted "Kazan" = "Kazan" := by
  decide

/-- The value of a slot is a text: what can be read as a text is its value. -/
def Slot.IsText {σ : Type} (f : Slot σ) : Prop :=
  ∃ wrap : String → f.Value, Function.Injective wrap ∧
    ∀ s text, readText s = .ok text → f.read s = .ok (wrap text)

theorem readOptional_of_readText {s : Setting} {text : String} (ok : readText s = .ok text) :
    readOptional readText s = .ok (some text) := by
  cases s with
  | absent => cases ok
  | bool | integer | real | text | list | table => exact congrArg (Except.map some) ok

end Setting

namespace Profile

open Setting (IsName Reads Slot assigned? ofVariable ofValue readText reprinted)

variable {files files' : FileTree} {environment environment' : List (String × String)}
  {path path' origin : Option String} {document document' : TomlEntries} {p : Profile}
  {name key given written : String}

/-! ## Settings that are texts -/

/-- The settings that are texts, by section and key. -/
def textKeys : List (String × String) :=
  [("scenario", "city"), ("scenario", "error_metric"), ("logging", "directory"),
    ("logging", "file_prefix"), ("report", "summary_path")]

theorem slot_of_textKey (mem : (name, key) ∈ textKeys) :
    ∃ row ∈ slots, row.1 = name ∧ row.2.key = key ∧ row.2.IsText := by
  have plain {σ : Type} {f : Slot σ} (shape : ∃ other value, f = ⟨_, key, readText, other, value⟩) :
      f.IsText := by
    obtain ⟨other, value, rfl⟩ := shape
    exact ⟨id, Function.injective_id, fun s text ok => ok⟩
  have optional {σ : Type} {f : Slot σ}
      (shape : ∃ other value, f = ⟨_, key, Setting.readOptional readText, other, value⟩) :
      f.IsText := by
    obtain ⟨other, value, rfl⟩ := shape
    exact ⟨some, Option.some_injective _, fun s text ok => Setting.readOptional_of_readText ok⟩
  simp only [textKeys, List.mem_cons, Prod.mk.injEq, List.not_mem_nil, or_false] at mem
  rcases mem with ⟨rfl, rfl⟩ | ⟨rfl, rfl⟩ | ⟨rfl, rfl⟩ | ⟨rfl, rfl⟩ | ⟨rfl, rfl⟩
  · refine ⟨("scenario", citySlot.within scenario), ?_, rfl, rfl, plain ⟨_, _, rfl⟩⟩
    simp [slots, scenarioSlots]
  · refine ⟨("scenario", errorSeriesSlot.within scenario), ?_, rfl, rfl, plain ⟨_, _, rfl⟩⟩
    simp [slots, scenarioSlots]
  · refine ⟨("logging", directorySlot.within logging), ?_, rfl, rfl, optional ⟨_, _, rfl⟩⟩
    simp [slots, loggingSlots]
  · refine ⟨("logging", filePrefixSlot.within logging), ?_, rfl, rfl, optional ⟨_, _, rfl⟩⟩
    simp [slots, loggingSlots]
  · refine ⟨("report", summaryPathSlot.within summaryPath), ?_, rfl, rfl, optional ⟨_, _, rfl⟩⟩
    simp [slots, reportSlots]

theorem ne_thresholds_of_textKey (mem : (name, key) ∈ textKeys) : name ≠ "thresholds" := by
  rintro rfl
  simp [textKeys] at mem

/-! ## A variable and a text in a file -/

/-- A profile is loaded, from whatever file. -/
def Loads (files : FileTree) (environment : List (String × String)) (path : Option String)
    (p : Profile) : Prop :=
  ∃ source, load files environment path = .ok (p, source)

/-- Two sources agree on all settings but one. -/
structure AgreeBut (name key : String) (environment environment' : List (String × String))
    (document document' : TomlEntries) : Prop where
  environments : ∀ n k, IsName n → IsName k → (n, k) ≠ (name, key) →
    assigned? n k environment' = assigned? n k environment
  documents : ∀ n ∈ sectionNames, ∀ k, (n, k) ≠ (name, key) →
    document'.settingAt? n k = document.settingAt? n k

theorem loads_iff (sourced : Sourced files environment path origin document) :
    Loads files environment path p ↔ ∃ q : Profile,
      (∀ row ∈ slots, Reads row.2.read row.2.other (found? row environment origin document)
        (row.2.value q)) ∧
      (∀ key, IsName key → assigned? "thresholds" key environment = none) ∧
      namedRows origin document = .ok q.thresholds ∧ q.withThresholds = p ∧ p.fault? = none := by
  simp only [Loads, load_iff sourced, exists_eq_left]

/-- Sources that agree on the thresholds name the same rows. -/
theorem AgreeBut.namedRows (agree : AgreeBut name key environment environment' document document')
    (apart : name ≠ "thresholds") (sections : document.Sectioned) (sections' : document'.Sectioned)
    (origin : Option String) : namedRows origin document' = namedRows origin document := by
  have named : "thresholds" ∈ sectionNames := by decide
  have join := Setting.sectionAt_ofDocument sections origin named
  have join' := Setting.sectionAt_ofDocument sections' origin named
  have ordered (entries : List (String × Setting)) :
      Setting.OrderedKeys (Setting.joinEntries [] entries) :=
    Setting.OrderedKeys.nil.joinEntries
  rw [Profile.namedRows, Profile.namedRows, (ordered _).ext (ordered _) fun k => ?_]
  rw [← join, ← join', ← Setting.settingAt?, ← Setting.settingAt?,
    Setting.settingAt_ofDocument sections origin named,
    Setting.settingAt_ofDocument sections' origin named,
    agree.documents "thresholds" named k fun same => apart (Prod.mk.inj same).1.symm]

/-- Where sources agree but on a text, they have everything else in common. -/
theorem AgreeBut.found (agree : AgreeBut name key environment environment' document document')
    {row : String × Slot Profile} (mem : row ∈ slots) (apart : (row.1, row.2.key) ≠ (name, key))
    (origin : Option String) :
    found? row environment' origin document' = found? row environment origin document := by
  obtain ⟨named, isName, isKey⟩ := slots_named row mem
  rw [found?, found?, agree.environments _ _ isName isKey apart, agree.documents _ named _ apart]

/-- Sources that agree but on a slot, of which the same is read from both, load the same
profiles. -/
theorem AgreeBut.loads_iff {row : String × Slot Profile}
    (agree : AgreeBut row.1 row.2.key environment environment' document document')
    (mem : row ∈ slots) (apart : row.1 ≠ "thresholds")
    (sourced : Sourced files environment path origin document)
    (sourced' : Sourced files' environment' path' origin document')
    (same : ∀ a, Reads row.2.read row.2.other (found? row environment origin document) a ↔
      Reads row.2.read row.2.other (found? row environment' origin document') a) (p : Profile) :
    Loads files environment path p ↔ Loads files' environment' path' p := by
  rw [Profile.loads_iff sourced, Profile.loads_iff sourced']
  refine exists_congr fun q => and_congr (forall₂_congr fun other other_mem => ?_)
    (and_congr (forall₂_congr fun k isKey => ?_) (and_congr_left fun _ => ?_))
  · by_cases here : (other.1, other.2.key) = (row.1, row.2.key)
    · obtain rfl : other = row := List.inj_on_of_nodup_map slots_nodup other_mem mem here
      exact same _
    · rw [agree.found other_mem here]
  · rw [agree.environments "thresholds" k (by decide) isKey
      fun here => apart (Prod.mk.inj here).1.symm]
  · rw [agree.namedRows apart sourced.sections sourced'.sections]

/-- A setting that is a text comes to the same profile from a variable as from a file with the text
that the variable is printed as, and from a file with any other text it does not. -/
theorem load_of_variable (mem : (name, key) ∈ textKeys)
    (sourced : Sourced files environment path origin document)
    (sourced' : Sourced files' environment' path' origin document')
    (agree : AgreeBut name key environment environment' document document')
    (assigned : assigned? name key environment = some given)
    (unassigned : assigned? name key environment' = none)
    (stands : document'.settingAt? name key = some (.text written)) :
    (written = reprinted given →
        ∀ p, Loads files environment path p ↔ Loads files' environment' path' p) ∧
      (written ≠ reprinted given →
        ∀ p, ¬ (Loads files environment path p ∧ Loads files' environment' path' p)) := by
  obtain ⟨row, row_mem, rfl, rfl, wrap, injective, reads⟩ := slot_of_textKey mem
  have from_variable : found? row environment origin document = some (ofVariable given) := by
    rw [found?, assigned]
    rfl
  have from_file : found? row environment' origin document' = some (.text written origin) := by
    rw [found?, unassigned, stands]
    rfl
  have read_variable := reads _ _ (Setting.readText_ofVariable given)
  have read_file := reads (.text written origin) written rfl
  constructor
  · rintro rfl
    refine agree.loads_iff row_mem (ne_thresholds_of_textKey mem) sourced sourced' fun a => ?_
    rw [from_variable, from_file, Reads, Reads, read_variable, read_file]
  · rintro apart p ⟨loads, loads'⟩
    obtain ⟨q, each, -, -, rfl, -⟩ := (loads_iff sourced).mp loads
    obtain ⟨q', each', -, -, same, -⟩ := (loads_iff sourced').mp loads'
    have here := each row row_mem
    have there := each' row row_mem
    rw [from_variable, Reads, read_variable, ← value_withThresholds row_mem] at here
    rw [from_file, Reads, read_file, ← value_withThresholds row_mem, same] at there
    exact apart (injective (Except.ok.inj (there.trans here.symm)))

/-! ## A number with zeros in front -/

/-- A variable with a city. -/
def cityVariable (text : String) : List (String × String) := [("PVZ_LOAD__SCENARIO__CITY", text)]

/-- A document with a city. -/
def cityDocument (text : String) : List (String × TomlEntries) :=
  [("scenario", [("city", .text text)])]

def cityFile (text : String) : FileTree :=
  ⟨[], [(["city.toml"], Toml.sectionsText (cityDocument text))]⟩

theorem sourced_cityVariable (text : String) (origin : Option String) :
    Sourced .empty (cityVariable text) none origin [] where
  held := .noFile origin
  sections := @TomlEntries.sectioned_underHeader [] nofun List.nodup_nil nofun
  addressed := by
    simp only [Setting.Addressed, cityVariable, List.forall_mem_singleton]
    exact fun _ => ⟨"scenario", "city", by decide, by decide, by decide⟩

theorem sourced_cityFile {text : String}
    (read : (fileText (cityFile text) "city.toml").toOption =
      some (Toml.sectionsText (cityDocument text))) :
    Sourced (cityFile text) [] (some "city.toml") (some (originOf "city.toml"))
      ((cityDocument text).map Toml.underHeader) where
  held := by
    refine .file (toOption_eq_some.mp read) (Toml.ofText_of_plain ?_ ?_ ?_ ?_ ?_)
    · exact List.nodup_singleton _
    · exact List.forall_mem_singleton.mpr (List.nodup_singleton _)
    · exact List.forall_mem_singleton.mpr (List.forall_mem_singleton.mpr (.text text))
    · exact List.forall_mem_singleton.mpr (by simp [Toml.momentKey])
    · simp [cityDocument, Toml.momentKey]
  sections := by
    refine TomlEntries.sectioned_underHeader ?_ (List.nodup_singleton _) ?_
    · have plain : Setting.pathOf "scenario" = [.name "scenario"] := by decide
      exact List.forall_mem_singleton.mpr plain
    · exact List.forall_mem_singleton.mpr (List.nodup_singleton _)
  addressed := nofun

theorem settingAt_cityDocument (text n k : String) :
    TomlEntries.settingAt? n k ((cityDocument text).map Toml.underHeader) =
      if ("scenario", "city") = (n, k) then some (.text text) else none := by
  have scenario : lowerText "scenario" = "scenario" := by decide
  have city : lowerText "city" = "city" := by decide
  rw [TomlEntries.settingAt?, TomlEntries.sectionAt_underHeader, cityDocument]
  by_cases here : "scenario" = n
  · subst here
    by_cases same : "city" = k
    · subst same
      simp [TomlEntries.valueAt?, scenario, city]
    · simp [TomlEntries.valueAt?, scenario, city, same]
  · simp [TomlEntries.valueAt?, scenario, here]

/-- A variable and a file with a city have nothing else to say. -/
theorem agreeBut_city (given written : String) :
    AgreeBut "scenario" "city" (cityVariable given) [] []
      ((cityDocument written).map Toml.underHeader) where
  environments n k isName isKey apart := by
    have lower : lowerText "PVZ_LOAD__SCENARIO__CITY" = Setting.variableName "scenario" "city" := by
      decide
    have other : Setting.variableName "scenario" "city" ≠ Setting.variableName n k := by
      rw [Ne, Setting.variableName_inj (by decide) (by decide) isName isKey]
      rintro ⟨rfl, rfl⟩
      exact apart rfl
    have concat : assigned? n k ([] ++ cityVariable given) = _ := Setting.assigned_concat _
    rw [lower, if_neg other] at concat
    exact concat.symm
  documents n _ k apart := by
    rw [settingAt_cityDocument, if_neg (Ne.symm apart)]
    rfl

theorem load_of_variable_zeros :
    (∀ p, Loads .empty (cityVariable "007") none p ↔
        Loads (cityFile "7") [] (some "city.toml") p) ∧
      ∀ p, ¬ (Loads .empty (cityVariable "007") none p ∧
        Loads (cityFile "007") [] (some "city.toml") p) := by
  have mem : ("scenario", "city") ∈ textKeys := by decide
  have given : assigned? "scenario" "city" (cityVariable "007") = some "007" := by decide
  have variable_ := sourced_cityVariable "007" (some (originOf "city.toml"))
  have printed : Sourced (cityFile "7") _ _ _ _ := sourced_cityFile (by decide +kernel)
  have kept : Sourced (cityFile "007") _ _ _ _ := sourced_cityFile (by decide +kernel)
  have stands (text : String) := settingAt_cityDocument text "scenario" "city"
  refine ⟨(load_of_variable mem variable_ printed (agreeBut_city _ _) given rfl (stands "7")).1 ?_,
    (load_of_variable mem variable_ kept (agreeBut_city _ _) given rfl (stands "007")).2 ?_⟩
  · decide
  · decide

/-- A city with zeros in front is kept in a file and lost in a variable. -/
theorem zeros_in_front_lost :
    ∃ p p', load .empty (cityVariable "007") none = .ok (p, none) ∧
      load (cityFile "007") [] (some "city.toml") = .ok (p', some "city.toml") ∧
      p.scenario.city = "7" ∧ p'.scenario.city = "007" := by
  have city (loaded : Except LoadError (Profile × Option String)) (text : String)
      (source : Option String)
      (found : loaded.toOption.map (fun x => (x.1.scenario.city, x.2)) = some (text, source)) :
      ∃ p, loaded = .ok (p, source) ∧ p.scenario.city = text := by
    obtain ⟨⟨p, named⟩, ok, same⟩ := Option.map_eq_some_iff.mp found
    obtain ⟨rfl, rfl⟩ := Prod.mk.inj same
    exact ⟨p, toOption_eq_some.mp ok, rfl⟩
  obtain ⟨p, ok, lost⟩ := city (load .empty (cityVariable "007") none) "7" none (by decide +kernel)
  obtain ⟨p', ok', kept⟩ := city (load (cityFile "007") [] (some "city.toml")) "007"
    (some "city.toml") (by decide +kernel)
  exact ⟨p, p', ok, ok', lost, kept⟩

end Profile

end LoadHarness
