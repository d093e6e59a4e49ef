import Mathlib
import LoadHarness.Profile.Reader
import LoadHarness.Proofs.Profile.Lookup

/-!
# Variables of the environment

A variable is addressed to a key of a section by its name: the two names stand after the common
start, parted by a doubled underscore. Variables are put over other settings one after the other,
so at each key the last one that is addressed to it is found, and else what was there.
-/

namespace LoadHarness

namespace Setting

/-! ## Addresses -/

/-- A name that a doubled underscore cannot be mistaken in. -/
structure IsName (name : String) : Prop where
  filled : name.toList ≠ []
  chars : name.toList.all isNameChar = true
  undoubled : pointed name.toList = name.toList
  closed : name.toList.getLast? ≠ some '_'

instance (name : String) : Decidable (IsName name) :=
  decidable_of_iff (name.toList ≠ [] ∧ name.toList.all isNameChar = true ∧
      pointed name.toList = name.toList ∧ name.toList.getLast? ≠ some '_')
    ⟨fun h => ⟨h.1, h.2.1, h.2.2.1, h.2.2.2⟩, fun h => ⟨h.1, h.2, h.3, h.4⟩⟩

/-- The name, in lower case, of the variable that is addressed to a key of a section. -/
def variableName (name key : String) : String := variableStart ++ name ++ "__" ++ key

variable {name key name' key' : String} {environment : List (String × String)} {s : Setting}

/-- The first doubled underscore is the one that parts the names. -/
theorem pointed_append {cs : List Char} (undoubled : pointed cs = cs)
    (closed : cs.getLast? ≠ some '_') (rest : List Char) :
    pointed (cs ++ '_' :: '_' :: rest) = cs ++ '.' :: pointed rest := by
  induction cs using pointed.induct with
  | case1 cs ih =>
      rw [pointed] at undoubled
      exact absurd (List.cons.inj undoubled).1 (by decide)
  | case2 c cs apart ih =>
      rw [pointed] at undoubled
      · have later : cs.getLast? ≠ some '_' := by
          cases cs with
          | nil => simp
          | cons next cs => simpa using closed
        rw [List.cons_append, pointed, ih (List.cons.inj undoubled).2 later]
        · rfl
        · rintro more rfl same
          cases cs with
          | nil => exact closed rfl
          | cons next cs =>
              obtain rfl := (List.cons.inj same).1
              exact apart cs rfl rfl
      · exact apart
  | case3 => rw [List.nil_append, pointed, List.nil_append]

theorem IsName.span (isName : IsName name) (rest : List Char) :
    (name.toList ++ '.' :: rest).span isNameChar = (name.toList, '.' :: rest) := by
  have all := List.all_eq_true.mp isName.chars
  rw [List.span_eq_takeWhile_dropWhile, List.takeWhile_append_of_pos all,
    List.dropWhile_append_of_pos all]
  simp [show isNameChar '.' = false by decide]

/-- The path of two names with a point between them. -/
theorem pathOf_pair (isName : IsName name) (isKey : IsName key) :
    pathOf (String.ofList (name.toList ++ '.' :: key.toList)) = [.name name, .name key] := by
  have whole := span_all (List.all_eq_true.mp isKey.chars)
  have steps : steps? (('.' :: key.toList).length + 1) ('.' :: key.toList) =
      some [.name key] := by
    rw [steps?]
    simp only [whole, List.isEmpty_eq_false_iff.mpr isKey.filled, List.length_cons]
    simp [steps?]
  simp only [pathOf, String.toList_ofList, isName.span, steps,
    List.isEmpty_eq_false_iff.mpr isName.filled]
  simp

theorem pathOf_address (isName : IsName name) (isKey : IsName key) :
    pathOf (String.ofList
      (pointed ((variableName name key).toList.drop variableStart.length))) =
        [.name name, .name key] := by
  have names : (variableName name key).toList.drop variableStart.length =
      name.toList ++ '_' :: '_' :: key.toList := by
    have size : variableStart.length = variableStart.toList.length := rfl
    simp only [variableName, String.toList_append, List.append_assoc, size, List.drop_left]
    rfl
  rw [names, pointed_append isName.undoubled isName.closed, isKey.undoubled]
  exact pathOf_pair isName isKey

/-- Different keys have different variables. -/
theorem variableName_inj (isName : IsName name) (isKey : IsName key) (isName' : IsName name')
    (isKey' : IsName key') :
    variableName name key = variableName name' key' ↔ name = name' ∧ key = key' := by
  constructor
  · intro same
    have paths := pathOf_address isName isKey
    rw [same, pathOf_address isName' isKey'] at paths
    simp only [List.cons.injEq, PathStep.name.injEq, and_true] at paths
    exact ⟨paths.1.symm, paths.2.symm⟩
  · rintro ⟨rfl, rfl⟩
    rfl

/-- The names in the name of a variable are in lower case. -/
theorem lower_of_variableName {text : String} (same : lowerText text = variableName name key) :
    lowerText name = name ∧ lowerText key = key := by
  have lower := lowerText_eq_iff.mp (lowerText_lowerText text)
  rw [same] at lower
  simp only [variableName, String.toList_append, List.mem_append] at lower
  exact ⟨lowerText_eq_iff.mpr fun c mem => lower c (.inl (.inl (.inr mem))),
    lowerText_eq_iff.mpr fun c mem => lower c (.inr mem)⟩

theorem ofEnvironment_of_name {assignment : String × String}
    (same : lowerText assignment.1 = variableName name key) :
    ofEnvironment? assignment = some (String.ofList
      (pointed ((variableName name key).toList.drop variableStart.length)),
        ofVariable assignment.2) := by
  have start : variableStart.toList.isPrefixOf (variableName name key).toList = true := by
    rw [List.isPrefixOf_iff_prefix]
    simp only [variableName, String.toList_append, List.append_assoc]
    exact List.prefix_append _ _
  simp only [ofEnvironment?, same, start, if_true]

/-! ## Variables over other settings -/

/-- Every variable that holds a setting is addressed to a key of a section. -/
def Addressed (environment : List (String × String)) : Prop :=
  ∀ assignment ∈ environment, (ofEnvironment? assignment).isSome = true →
    ∃ name key, IsName name ∧ IsName key ∧ lowerText assignment.1 = variableName name key

/-- The text of the last variable that is addressed to a key, if there is one. -/
def assigned? (name key : String) (environment : List (String × String)) : Option String :=
  (environment.reverse.find? (lowerText ·.1 == variableName name key)).map Prod.snd

theorem assigned_concat (assignment : String × String) :
    assigned? name key (environment ++ [assignment]) =
      if lowerText assignment.1 = variableName name key then some assignment.2
      else assigned? name key environment := by
  rw [assigned?, List.reverse_append, List.reverse_singleton, List.singleton_append,
    List.find?_cons]
  by_cases here : lowerText assignment.1 = variableName name key
  · simp [here]
  · rw [if_neg here, beq_false_of_ne here]
    rfl

/-- Variables have single values. -/
theorem cover_ofVariable (before : Option Setting) (text : String) :
    cover before (ofVariable text) = ofVariable text := by
  simp only [ofVariable]
  split
  · rfl
  split
  · rfl
  split
  · rfl
  split <;> rfl

theorem layer_concat (layers : List (String × Setting)) (entry : String × Setting) :
    layer s (layers ++ [entry]) = putAt (pathOf entry.1) entry.2 (layer s layers) :=
  List.foldl_concat _ _ _ _

/-- The settings with the variables of the environment over them. -/
def underEnvironment (s : Setting) (environment : List (String × String)) : Setting :=
  layer s (environment.filterMap ofEnvironment?)

/-- The last variable that holds a setting puts it at its key. -/
theorem underEnvironment_concat (assignment : String × String)
    (isName : IsName name) (isKey : IsName key)
    (same : lowerText assignment.1 = variableName name key) :
    s.underEnvironment (environment ++ [assignment]) =
      putAt [.name name, .name key] (ofVariable assignment.2)
        (s.underEnvironment environment) := by
  have path := pathOf_address isName isKey
  rw [underEnvironment, List.filterMap_append,
    List.filterMap_cons_some (ofEnvironment_of_name same), List.filterMap_nil, layer_concat, path]
  rfl

theorem underEnvironment_concat_none {assignment : String × String}
    (none : ofEnvironment? assignment = none) :
    s.underEnvironment (environment ++ [assignment]) = s.underEnvironment environment := by
  rw [underEnvironment, List.filterMap_append, List.filterMap_cons_none none, List.filterMap_nil,
    List.append_nil]
  rfl

theorem Addressed.of_append {more : List (String × String)}
    (addressed : Addressed (environment ++ more)) : Addressed environment :=
  fun assignment mem => addressed assignment (List.mem_append_left _ mem)

/-- A document with variables over it is a table of tables in order. -/
theorem deep_underEnvironment (origin : Option String) (document : TomlEntries)
    (environment : List (String × String)) :
    ∃ table place, (ofDocument origin document).underEnvironment environment =
      .table table place ∧ Deep (.table table place) := by
  have empty : Deep (.table [] none) := ⟨.nil, fun entry mem => absurd mem List.not_mem_nil⟩
  obtain ⟨start, first, start_eq, deep⟩ := deep_layer (ofEntries origin document) [] none empty
  rw [ofDocument, start_eq]
  exact deep_layer _ start first deep

/-- Variables keep the shape of sections. -/
theorem Sectioned.underEnvironment {names : List String} (sectioned : Sectioned names s)
    (addressed : Addressed environment) : Sectioned names (s.underEnvironment environment) := by
  induction environment using List.reverseRecOn with
  | nil => exact sectioned
  | append_singleton environment assignment ih =>
      have earlier := ih addressed.of_append
      cases held : ofEnvironment? assignment with
      | none =>
          rw [underEnvironment_concat_none held]
          exact earlier
      | some entry =>
          obtain ⟨name, key, isName, isKey, same⟩ :=
            addressed assignment (by simp) (held ▸ rfl)
          rw [underEnvironment_concat assignment isName isKey same]
          exact earlier.putAt name key

/-- At each key the last variable that is addressed to it is found, and else what was there. -/
theorem settingAt_underEnvironment (addressed : Addressed environment) (isName : IsName name)
    (isKey : IsName key) :
    settingAt? name key (s.underEnvironment environment) =
      ((assigned? name key environment).map ofVariable).or (settingAt? name key s) := by
  induction environment using List.reverseRecOn with
  | nil => rfl
  | append_singleton environment assignment ih =>
      rw [assigned_concat]
      cases held : ofEnvironment? assignment with
      | none =>
          have apart : lowerText assignment.1 ≠ variableName name key := by
            intro same
            rw [ofEnvironment_of_name same] at held
            cases held
          rw [underEnvironment_concat_none held, if_neg apart]
          exact ih addressed.of_append
      | some entry =>
          obtain ⟨other, otherKey, isOther, isOtherKey, same⟩ :=
            addressed assignment (by simp) (held ▸ rfl)
          obtain ⟨lower, lowerKey⟩ := lower_of_variableName same
          rw [underEnvironment_concat assignment isOther isOtherKey same, settingAt_putAt, lower,
            lowerKey, same, cover_ofVariable]
          have here := variableName_inj isOther isOtherKey isName isKey
          by_cases equal : name = other ∧ key = otherKey
          · rw [if_pos equal, if_pos (here.mpr ⟨equal.1.symm, equal.2.symm⟩)]
            rfl
          · have apart : variableName other otherKey ≠ variableName name key := fun same =>
              equal ⟨(here.mp same).1.symm, (here.mp same).2.symm⟩
            rw [if_neg equal, if_neg apart]
            exact ih addressed.of_append

/-- A section that no variable is addressed to stays what it was. -/
theorem sectionAt_underEnvironment (addressed : Addressed environment)
    (none : ∀ key, IsName key → assigned? name key environment = none) :
    (s.underEnvironment environment).sectionAt name = s.sectionAt name := by
  induction environment using List.reverseRecOn with
  | nil => rfl
  | append_singleton environment assignment ih =>
      have earlier : ∀ key, IsName key → assigned? name key environment = .none := by
        intro key isKey
        have absent := none key isKey
        rw [assigned_concat] at absent
        split at absent
        · cases absent
        · exact absent
      have before := ih addressed.of_append earlier
      cases held : ofEnvironment? assignment with
      | none =>
          rw [underEnvironment_concat_none held]
          exact before
      | some entry =>
          obtain ⟨other, key, isOther, isKey, same⟩ := addressed assignment (by simp) (held ▸ rfl)
          have apart : name ≠ lowerText other := by
            rw [(lower_of_variableName same).1]
            rintro rfl
            have absent := none key isKey
            rw [assigned_concat, if_pos same] at absent
            cases absent
          rw [underEnvironment_concat assignment isOther isKey same, sectionAt_putAt, if_neg apart]
          exact before

end Setting

end LoadHarness
