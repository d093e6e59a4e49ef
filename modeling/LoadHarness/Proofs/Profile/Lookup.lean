import Mathlib
import LoadHarness.Proofs.Profile.Document

/-!
# Settings by section and key

What is found at a key of a section once layers are put over each other. A setting that is put
there changes nothing else, so each key can be followed through the layers on its own.
-/

namespace LoadHarness

namespace Setting

/-- The setting at a key, if there is one. -/
def valueAt? (key : String) (entries : List (String × Setting)) : Option Setting :=
  (entries.find? (·.1 == key)).map Prod.snd

/-- The entries of a section. -/
def sectionAt (name : String) (s : Setting) : List (String × Setting) :=
  ((valueAt? name s.entries).getD .absent).entries

/-- The setting at a key of a section, if there is one. -/
def settingAt? (name key : String) (s : Setting) : Option Setting :=
  valueAt? key (s.sectionAt name)

variable {name key : String} {value s : Setting} {entries table : List (String × Setting)}

/-! ## Keys of a table -/

theorem valueAt_eq_none : valueAt? key entries = none ↔ ∀ entry ∈ entries, entry.1 ≠ key := by
  simp only [valueAt?, Option.map_eq_none_iff, List.find?_eq_none, beq_iff_eq]

theorem mem_of_valueAt (found : valueAt? key entries = some value) : (key, value) ∈ entries := by
  obtain ⟨entry, here, rfl⟩ := Option.map_eq_some_iff.mp found
  have same := List.find?_some here
  rw [beq_iff_eq] at same
  exact same ▸ List.mem_of_find?_eq_some here

/-- The entries of a table in order are what is found at their keys. -/
theorem OrderedKeys.mem_iff (ordered : OrderedKeys entries) {entry : String × Setting} :
    entry ∈ entries ↔ valueAt? entry.1 entries = some entry.2 := by
  constructor
  · intro mem
    rw [valueAt?, find_of_nodup ordered.nodup mem]
    rfl
  · intro found
    exact mem_of_valueAt found

/-- Tables in order with the same settings are the same. -/
theorem OrderedKeys.ext (first : OrderedKeys entries) (second : OrderedKeys table)
    (same : ∀ key, valueAt? key entries = valueAt? key table) : entries = table := by
  have perm : entries.Perm table := by
    rw [List.perm_ext_iff_of_nodup first.nodup.of_map second.nodup.of_map]
    intro entry
    rw [first.mem_iff, second.mem_iff, same]
  refine perm.eq_of_pairwise (fun a b _ _ less more => ?_) first.ascending second.ascending
  exact absurd less (lt_asymm more)

theorem valueAt_insertAt (other : String) :
    valueAt? key (insertAt other value entries) =
      if key = other then some value else valueAt? key entries := by
  induction entries with
  | nil =>
      rw [insertAt]
      by_cases here : key = other <;> simp [valueAt?, here, Ne.symm]
  | cons entry entries ih =>
      rw [insertAt]
      by_cases here : key = other
      · subst here
        split
        · simp [valueAt?]
        · next unlike =>
          split
          · simp [valueAt?]
          · simpa [valueAt?, Ne.symm unlike] using ih
      · have apart : (other == key) = false := by simpa using Ne.symm here
        split
        · next same => simp [valueAt?, apart, ← same]
        split
        · simp [valueAt?, apart]
        · simp only [valueAt?, if_neg here, List.find?_cons] at ih ⊢
          cases entry.1 == key with
          | true => rfl
          | false => exact ih

theorem lookup_eq_getD : lookup key entries = (valueAt? key entries).getD .absent := rfl

/-- What a joined setting takes the place of is what is there. -/
theorem before_eq : (if hasKey key entries then some (lookup key entries) else none) =
    valueAt? key entries := by
  rw [lookup_eq_getD]
  cases found : valueAt? key entries with
  | none =>
      have absent : hasKey key entries = false := by
        simpa [hasKey] using valueAt_eq_none.mp found
      rw [absent]
      rfl
  | some value =>
      have present : hasKey key entries = true :=
        List.any_eq_true.mpr ⟨_, mem_of_valueAt found, beq_self_eq_true key⟩
      rw [present]
      rfl

theorem joinEntries_cons (old : List (String × Setting)) :
    joinEntries old ((key, value) :: entries) =
      joinEntries (insertAt (lowerText key) (cover (valueAt? (lowerText key) old) value) old)
        entries := by
  rw [joinEntries, before_eq]

/-- A joined setting is that of the new entry at its key, where there is one, over the old one. -/
theorem valueAt_joinEntries (names : (entries.map (lowerText ·.1)).Nodup) :
    valueAt? key (joinEntries table entries) =
      match entries.find? (lowerText ·.1 == key) with
      | some entry => some (cover (valueAt? key table) entry.2)
      | none => valueAt? key table := by
  induction entries generalizing table with
  | nil =>
      rw [joinEntries]
      rfl
  | cons entry entries ih =>
      obtain ⟨apart, distinct⟩ := List.nodup_cons.mp names
      rw [joinEntries_cons, ih distinct, valueAt_insertAt]
      by_cases here : lowerText entry.1 = key
      · have others : entries.find? (lowerText ·.1 == key) = none := by
          rw [List.find?_eq_none]
          intro other mem same
          rw [beq_iff_eq, ← here] at same
          exact apart (List.mem_map.mpr ⟨other, mem, same⟩)
        rw [others]
        simp only [List.find?_cons, here, BEq.rfl, if_true]
      · have unlike : (lowerText entry.1 == key) = false := beq_false_of_ne here
        simp only [List.find?_cons, unlike, if_neg (Ne.symm here)]

/-! ## A key of a section -/

/-- Putting a setting at a key of a section leaves all other sections. -/
theorem sectionAt_putAt (group other : String) :
    sectionAt name (putAt [.name group, .name other] value s) =
      if name = lowerText group then
        insertAt (lowerText other) (cover (valueAt? (lowerText other) (s.sectionAt name)) value)
          (s.sectionAt name)
      else s.sectionAt name := by
  have inner (old : Setting) : putAt [.name other] value old =
      .table (insertAt (lowerText other) (cover (valueAt? (lowerText other) old.entries) value)
        old.entries) none := by
    rw [putAt, joinEntries_cons, joinEntries]
  rw [putAt, inner, sectionAt, entries, valueAt_insertAt]
  · by_cases here : name = lowerText group
    · rw [if_pos here, if_pos here, lookup_eq_getD, sectionAt, here]
      rfl
    · rw [if_neg here, if_neg here]
      rfl
  · rintro ⟨⟩

/-- Putting a setting at a key of a section leaves all other keys. -/
theorem settingAt_putAt (group other : String) :
    settingAt? name key (putAt [.name group, .name other] value s) =
      if name = lowerText group ∧ key = lowerText other then
        some (cover (settingAt? name key s) value)
      else settingAt? name key s := by
  rw [settingAt?, sectionAt_putAt]
  by_cases here : name = lowerText group
  · simp only [here, if_true, true_and, valueAt_insertAt]
    by_cases same : key = lowerText other
    · simp only [same, if_true, settingAt?]
    · simp only [same, if_false, settingAt?]
  · simp only [here, if_false, false_and, settingAt?]

/-- The sections of a profile are tables, as far as they are there. -/
def Sectioned (names : List String) (s : Setting) : Prop :=
  ∀ name ∈ names, ∀ found, valueAt? name s.entries = some found →
    ∃ table origin, found = .table table origin

/-- A setting that is put at a key of a section leaves tables. -/
theorem Sectioned.putAt {names : List String} (sectioned : Sectioned names s)
    (group other : String) :
    Sectioned names (putAt [.name group, .name other] value s) := by
  intro name mem found here
  rw [Setting.putAt, entries, valueAt_insertAt] at here
  · split at here
    · obtain rfl := Option.some.inj here
      exact ⟨_, none, rfl⟩
    · exact sectioned name mem found here
  · rintro ⟨⟩

end Setting

/-! ## Documents of sections -/

namespace TomlEntries

/-- The value at a key in any case, if there is one. -/
def valueAt? (key : String) (entries : TomlEntries) : Option TomlValue :=
  (List.find? (lowerText ·.1 == key) entries).map Prod.snd

/-- Where no key stands twice, every entry is the one of its key. -/
theorem valueAt_of_mem {entries : TomlEntries} (apart : (entries.map (lowerText ·.1)).Nodup)
    {entry : String × TomlValue} (mem : entry ∈ entries) :
    valueAt? (lowerText entry.1) entries = some entry.2 := by
  have rows : (entries.map fun entry => (lowerText entry.1, entry.2)).find?
      (·.1 == lowerText entry.1) = some (lowerText entry.1, entry.2) :=
    Setting.find_of_nodup (by rwa [List.map_map]) (List.mem_map.mpr ⟨entry, mem, rfl⟩)
  rw [List.find?_map] at rows
  obtain ⟨found, here, same⟩ := Option.map_eq_some_iff.mp rows
  exact Option.map_eq_some_iff.mpr ⟨found, here, (Prod.mk.inj same).2⟩

theorem mem_of_valueAt {key : String} {entries : TomlEntries} {value : TomlValue}
    (found : valueAt? key entries = some value) :
    ∃ entry ∈ entries, lowerText entry.1 = key ∧ entry.2 = value := by
  obtain ⟨entry, here, rfl⟩ := Option.map_eq_some_iff.mp found
  have same := List.find?_some here
  rw [beq_iff_eq] at same
  exact ⟨entry, List.mem_of_find?_eq_some here, same, rfl⟩

/-- The entries of a section whose name is in any case. -/
def sectionAt (name : String) (document : TomlEntries) : TomlEntries :=
  match valueAt? name document with
  | some (.table _ entries) => entries
  | _ => []

/-- A section under a header is found by its name. -/
theorem sectionAt_underHeader (name : String) (sections : List (String × TomlEntries)) :
    sectionAt name (sections.map Toml.underHeader) =
      ((sections.find? (lowerText ·.1 == name)).map Prod.snd).getD [] := by
  have same : ((fun entry : String × TomlValue => lowerText entry.1 == name) ∘
      Toml.underHeader) = (lowerText ·.1 == name) := rfl
  rw [sectionAt, valueAt?, List.find?_map, same]
  cases List.find? (lowerText ·.1 == name) sections with
  | none => rfl
  | some s => rfl

/-- The value at a key of a section, if there is one. -/
def settingAt? (name key : String) (document : TomlEntries) : Option TomlValue :=
  valueAt? key (sectionAt name document)

/-- A document whose keys are names, in which sections are tables and no key of it or of a section
stands twice in whatever case. -/
structure Sectioned (document : TomlEntries) : Prop where
  plain : ∀ entry ∈ document, Setting.pathOf entry.1 = [.name entry.1]
  apart : (document.map (lowerText ·.1)).Nodup
  tables : ∀ entry ∈ document, lowerText entry.1 ∈ Profile.sectionNames →
    ∃ form entries, entry.2 = .table form entries ∧ (entries.map (lowerText ·.1)).Nodup

/-- Sections under headers make such a document. -/
theorem sectioned_underHeader {sections : List (String × TomlEntries)}
    (plain : ∀ s ∈ sections, Setting.pathOf s.1 = [.name s.1])
    (apart : (sections.map (lowerText ·.1)).Nodup)
    (keys : ∀ s ∈ sections, (s.2.map (lowerText ·.1)).Nodup) :
    Sectioned (sections.map Toml.underHeader) where
  plain := List.forall_mem_map.mpr plain
  apart := by
    rw [List.map_map]
    exact apart
  tables := List.forall_mem_map.mpr fun s mem _ => ⟨.header, s.2, rfl, keys s mem⟩

end TomlEntries

namespace Setting

variable {document : TomlEntries}

/-- The settings of a document alone. -/
def ofDocument (origin : Option String) (document : TomlEntries) : Setting :=
  layer (.table [] none) (ofEntries origin document)

/-- The setting that a value of a document comes to: the keys of a table are lower-cased, anything
else stays what it is. -/
def ofValue (origin : Option String) (v : TomlValue) : Setting := cover none (ofToml origin v)

theorem ofValue_eq {origin : Option String} {v : TomlValue}
    (scalar : ∀ form entries, v ≠ .table form entries) : ofValue origin v = ofToml origin v := by
  cases v with
  | table form entries => exact absurd rfl (scalar form entries)
  | text | integer | real | bool | moment | array | tables => rfl

theorem lower_ofEntries (origin : Option String) (entries : TomlEntries) :
    (ofEntries origin entries).map (lowerText ·.1) = entries.map (lowerText ·.1) := by
  rw [ofEntries_eq_map, List.map_map]
  rfl

/-- Joined values of a document are found at their keys in lower case. -/
theorem valueAt_join_ofEntries (origin : Option String) {entries : TomlEntries}
    (apart : (entries.map (lowerText ·.1)).Nodup) (key : String) :
    valueAt? key (joinEntries [] (ofEntries origin entries)) =
      (TomlEntries.valueAt? key entries).map (ofValue origin) := by
  rw [valueAt_joinEntries ((lower_ofEntries origin entries).symm ▸ apart), ofEntries_eq_map,
    List.find?_map, TomlEntries.valueAt?, Option.map_map]
  have same : ((fun entry : String × Setting => lowerText entry.1 == key) ∘
      fun entry : String × TomlValue => (entry.1, ofToml origin entry.2)) =
        (lowerText ·.1 == key) := rfl
  rw [same]
  cases List.find? (lowerText ·.1 == key) entries with
  | none => rfl
  | some entry => rfl

theorem ofDocument_eq (sections : document.Sectioned) (origin : Option String) :
    ofDocument origin document = .table (joinEntries [] (ofEntries origin document)) none := by
  refine layer_of_names fun entry mem => ?_
  rw [ofEntries_eq_map] at mem
  obtain ⟨written, there, rfl⟩ := List.mem_map.mp mem
  exact sections.plain written there

/-- What a document gives at the name of a section is the section joined. -/
theorem valueAt_ofDocument (sections : document.Sectioned) (origin : Option String)
    {name : String} (mem : name ∈ Profile.sectionNames) :
    valueAt? name (ofDocument origin document).entries = none ∧
        document.sectionAt name = [] ∨
      valueAt? name (ofDocument origin document).entries = some (.table
        (joinEntries [] (ofEntries origin (document.sectionAt name))) none) ∧
        ((document.sectionAt name).map (lowerText ·.1)).Nodup := by
  rw [ofDocument_eq sections, Setting.entries, valueAt_join_ofEntries origin sections.apart,
    TomlEntries.sectionAt]
  cases found : TomlEntries.valueAt? name document with
  | none => exact .inl ⟨rfl, rfl⟩
  | some v =>
      obtain ⟨entry, listed, same, rfl⟩ := TomlEntries.mem_of_valueAt found
      obtain ⟨form, entries, shape, distinct⟩ :=
        sections.tables entry listed (same.symm ▸ mem)
      rw [shape]
      refine .inr ⟨?_, distinct⟩
      rw [Option.map_some, ofValue, ofToml, cover_table]

theorem sectioned_ofDocument (sections : document.Sectioned) (origin : Option String) :
    Sectioned Profile.sectionNames (ofDocument origin document) := by
  intro name mem found here
  rcases valueAt_ofDocument sections origin mem with ⟨none, -⟩ | ⟨table, -⟩
  · rw [none] at here
    cases here
  · rw [table] at here
    exact ⟨_, none, (Option.some.inj here).symm⟩

/-- A section of a document stands in its settings. -/
theorem sectionAt_ofDocument (sections : document.Sectioned) (origin : Option String)
    {name : String} (mem : name ∈ Profile.sectionNames) :
    (ofDocument origin document).sectionAt name =
      joinEntries [] (ofEntries origin (document.sectionAt name)) := by
  rw [sectionAt]
  rcases valueAt_ofDocument sections origin mem with ⟨none, empty⟩ | ⟨table, -⟩
  · rw [none, empty]
    rfl
  · rw [table]
    rfl

/-- No key of a section stands twice in whatever case. -/
theorem nodup_sectionAt (sections : document.Sectioned) {name : String}
    (mem : name ∈ Profile.sectionNames) :
    ((document.sectionAt name).map (lowerText ·.1)).Nodup := by
  rcases valueAt_ofDocument sections none mem with ⟨-, empty⟩ | ⟨-, distinct⟩
  · rw [empty]
    exact List.nodup_nil
  · exact distinct

/-- A value of a document stands in its settings. -/
theorem settingAt_ofDocument (sections : document.Sectioned) (origin : Option String)
    {name : String} (mem : name ∈ Profile.sectionNames) (key : String) :
    settingAt? name key (ofDocument origin document) =
      (document.settingAt? name key).map (ofValue origin) := by
  rw [settingAt?, sectionAt_ofDocument sections origin mem,
    valueAt_join_ofEntries origin (nodup_sectionAt sections mem)]
  rfl

end Setting

end LoadHarness
