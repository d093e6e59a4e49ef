import Mathlib
import LoadHarness.Proofs.Toml.Value

/-!
# Documents in TOML are read back

A document of sections is read line by line: a header opens a section at the end of the root,
and each key with its value goes to the end of the section that was opened last. So the sections
come back in their order, each with its entries in theirs, as long as no name is given twice.
Only a section whose first key is the reserved one is no table.
-/

namespace LoadHarness

/-! ## Entries -/

namespace TomlEntries

section Entries

variable {entries done inner : TomlEntries} {key name : String} {value : TomlValue}

theorem find_eq_none (new : key ∉ entries.map Prod.fst) : find? entries key = none := by
  rw [find?, Option.map_eq_none_iff, List.find?_eq_none]
  intro entry mem same
  exact new (List.mem_map.mpr ⟨entry, mem, beq_iff_eq.mp same⟩)

/-- The last entry is found if no other has its key. -/
theorem find_last (new : name ∉ done.map Prod.fst) :
    find? (done ++ [(name, value)]) name = some value := by
  have none := find_eq_none new
  rw [find?, Option.map_eq_none_iff] at none
  rw [find?, List.find?_append, none]
  simp

theorem replace_last {other : TomlValue} (new : name ∉ done.map Prod.fst) :
    replace (done ++ [(name, value)]) name other = done ++ [(name, other)] := by
  have kept : done.map (fun entry => if entry.1 == name then (name, other) else entry) = done := by
    refine (List.map_congr_left fun entry mem => ?_).trans (List.map_id done)
    rw [if_neg]
    · rfl
    · intro same
      exact new (List.mem_map.mpr ⟨entry, mem, beq_iff_eq.mp same⟩)
  rw [replace, List.map_append, kept]
  simp

/-- A new header opens a table at the end. -/
theorem within_openTable (new : name ∉ done.map Prod.fst) :
    within? (openTable? name) [] done = some (done ++ [(name, .table .header [])]) := by
  rw [within?, openTable?, find_eq_none new]

/-- A new key goes to the end of the table that was opened last. -/
theorem within_addDotted (opened : name ∉ done.map Prod.fst) (new : key ∉ inner.map Prod.fst) :
    within? (addDotted? value [] key) [name] (done ++ [(name, .table .header inner)]) =
      some (done ++ [(name, .table .header (inner ++ [(key, value)]))]) := by
  rw [within?, find_last opened]
  simp only [within?, addDotted?, add?, find_eq_none new, Option.isSome_none, Bool.false_eq_true,
    if_false, Option.map_some, replace_last opened]

end Entries

end TomlEntries

namespace Toml

/-! ## Lines -/

section Lines

variable {fuel : Nat} {c d : Char} {cs rest : List Char} {draft : Draft}

/-- What a key begins with. -/
theorem keyChars_cons (cs : List Char) :
    ∃ first tail, keyChars cs = first :: tail ∧
      (isBare first = true ∨ first = '"' ∨ first = '\'') := by
  simp only [keyChars]
  split
  · next bare =>
    simp only [Bool.and_eq_true, Bool.not_eq_true', List.all_eq_true] at bare
    obtain ⟨first, tail, rfl⟩ := List.exists_cons_of_ne_nil (List.isEmpty_eq_false_iff.mp bare.1)
    exact ⟨first, tail, rfl, .inl (bare.2 first List.mem_cons_self)⟩
  split
  · exact ⟨_, _, rfl, .inr (.inl rfl)⟩
  split
  · exact ⟨_, _, rfl, .inr (.inr rfl)⟩
  · exact ⟨_, _, rfl, .inr (.inl rfl)⟩

/-- A key begins a line of its own kind: not with a blank and not with a bracket. -/
theorem keyChars_starts (cs : List Char) :
    ∃ first tail, keyChars cs = first :: tail ∧ StartsLine first ∧ first ≠ '[' := by
  obtain ⟨first, tail, opened, bare | rfl | rfl⟩ := keyChars_cons cs
  · refine ⟨first, tail, opened, ?_⟩
    have apart (other : Char) (unlike : isBare other = false) : first ≠ other := by
      rintro rfl
      rw [bare] at unlike
      cases unlike
    refine ⟨⟨?_, apart _ rfl, apart _ rfl, apart _ rfl⟩, apart _ rfl⟩
    simp only [isSpace, Bool.or_eq_false_iff, beq_eq_false_iff_ne]
    exact ⟨apart _ rfl, apart _ rfl⟩
  · exact ⟨'"', tail, opened, by decide, by decide⟩
  · exact ⟨'\'', tail, opened, by decide, by decide⟩

/-- A key without points is read up to the mark that follows it. -/
theorem dottedKey_keyChars (key : String) (bare : isBare c = false)
    (next : skipSpace (c :: rest) = d :: cs) (single : d ≠ '.') :
    dottedKey? nestingBound (keyChars key.toList ++ c :: rest) = some ([key], d :: cs) := by
  have read := simpleKey_keyChars key.toList rest bare
  obtain ⟨first, tail, opened, starts, -⟩ := keyChars_starts key.toList
  have unspaced :
      skipSpace (keyChars key.toList ++ c :: rest) = keyChars key.toList ++ c :: rest := by
    rw [opened, List.cons_append, skipSpace_cons starts.1]
  rw [String.ofList_toList] at read
  rw [nestingBound, dottedKey?, unspaced, read]
  simp only [next]
  split
  · next same => exact absurd (List.cons.inj same).1 single
  · rfl

/-- A value does not begin with a blank. -/
theorem valueText_cons {v : TomlValue} (plain : Plain v) :
    ∃ first tail, (valueText v).toList = first :: tail ∧ isSpace first = false := by
  cases plain with
  | text s =>
      obtain ⟨quote, tail, opened, marked⟩ := quotedChars_cons s.toList
      refine ⟨quote, tail, by rw [valueText, textText, String.toList_ofList, opened], ?_⟩
      rcases marked with rfl | rfl
      · rfl
      · rfl
  | bool b =>
      cases b with
      | false => exact ⟨'f', ['a', 'l', 's', 'e'], by simp [valueText], rfl⟩
      | true => exact ⟨'t', ['r', 'u', 'e'], by simp [valueText], rfl⟩
  | @natural n small =>
      obtain ⟨first, tail, opened⟩ := List.exists_cons_of_ne_nil (@Nat.toDigits_ne_nil n 10)
      have digit := isDigit_of_mem_digits (n := n) (opened ▸ List.mem_cons_self)
      refine ⟨first, tail, ?_, ?_⟩
      · rw [valueText, ← opened]
        exact toList_toString n
      · rw [isSpace, Bool.or_eq_false_iff, beq_eq_false_iff_ne, beq_eq_false_iff_ne]
        constructor
        · rintro rfl
          cases digit
        · rintro rfl
          cases digit
  | texts ss =>
      rcases ss with _ | ⟨s, _ | ⟨second, more⟩⟩
      · exact ⟨'[', [']'], by simp [valueText], rfl⟩
      · exact ⟨'[', (textText s).toList ++ [']'], by simp [valueText], rfl⟩
      · exact ⟨'[', _, by simp only [List.map_cons, valueText, String.toList_append]; rfl, rfl⟩

/-- The line of a key with its value. -/
def lineChars (entry : String × TomlValue) : List Char :=
  keyChars entry.1.toList ++ ' ' :: '=' :: ' ' :: ((valueText entry.2).toList ++ ['\n'])

/-- The line of a header. -/
def headerChars (name : String) : List Char := '[' :: (keyChars name.toList ++ [']', '\n'])

theorem lineChars_cons (entry : String × TomlValue) (rest : List Char) :
    ∃ first more, lineChars entry ++ rest = first :: more ∧ StartsLine first ∧ first ≠ '[' ∧
      rest.length ≤ more.length := by
  obtain ⟨first, tail, opened, starts, unbracketed⟩ := keyChars_starts entry.1.toList
  refine ⟨first, _, by rw [lineChars, opened, List.cons_append, List.cons_append], starts,
    unbracketed, ?_⟩
  rw [List.length_append]
  omega

/-- A key with its value is read up to the end of its line. -/
theorem keyValue_line {root : TomlEntries} {header : List String} {key : String} {v : TomlValue}
    {changed : TomlEntries} (plain : Plain v)
    (added : TomlEntries.within? (TomlEntries.addDotted? v [] key) header root = some changed) :
    keyValue? ⟨root, header⟩ (lineChars (key, v) ++ rest) =
      some (⟨changed, header⟩, '\n' :: rest) := by
  have opened : lineChars (key, v) ++ rest = keyChars key.toList ++
      ' ' :: '=' :: ' ' :: ((valueText v).toList ++ '\n' :: rest) := by
    simp [lineChars]
  have key_read : dottedKey? nestingBound (lineChars (key, v) ++ rest) =
      some ([key], '=' :: ' ' :: ((valueText v).toList ++ '\n' :: rest)) := by
    rw [opened]
    exact dottedKey_keyChars key rfl rfl (by decide)
  have unspaced : skipSpace (' ' :: ((valueText v).toList ++ '\n' :: rest)) =
      (valueText v).toList ++ '\n' :: rest := by
    obtain ⟨first, tail, value_opened, starts⟩ := valueText_cons plain
    rw [value_opened, List.cons_append]
    exact skipSpace_cons starts
  have value_read : value? (2 * ((valueText v).toList ++ '\n' :: rest).length + 2) nestingBound
      ((valueText v).toList ++ '\n' :: rest) = some (v, '\n' :: rest) := by
    refine value_valueText plain ?_
    rw [List.length_append]
    omega
  simp only [keyValue?, key_read, Option.bind_eq_bind, Option.bind_some, mark?, if_true, unspaced,
    value_read, List.dropLast_singleton, List.getLastD_cons, List.getLastD_nil, added]
  rfl

theorem headerChars_cons (name : String) (rest : List Char) :
    ∃ more, headerChars name ++ rest = '[' :: more ∧ rest.length < more.length := by
  refine ⟨_, rfl, ?_⟩
  simp
  omega

/-- A header is read up to the end of its line. -/
theorem header_line {name : String} {changed : TomlEntries}
    (opens : TomlEntries.within? (TomlEntries.openTable? name) [] draft.root = some changed) :
    header? draft (headerChars name ++ rest) = some (⟨changed, [name]⟩, '\n' :: rest) := by
  have opened :
      headerChars name ++ rest = '[' :: (keyChars name.toList ++ ']' :: '\n' :: rest) := by
    simp [headerChars]
  have key_read : dottedKey? nestingBound (keyChars name.toList ++ ']' :: '\n' :: rest) =
      some ([name], ']' :: '\n' :: rest) :=
    dottedKey_keyChars name rfl rfl (by decide)
  have single : (List.take 2 ('[' :: (keyChars name.toList ++ ']' :: '\n' :: rest)) ==
      ['[', '[']) = false := by
    obtain ⟨first, tail, key_opened, -, unlike⟩ := keyChars_starts name.toList
    simp [key_opened, unlike]
  rw [opened, header?]
  simp only [single, Bool.false_eq_true, if_false, List.drop_one, List.tail_cons, key_read,
    Option.bind_eq_bind, Option.bind_some, mark?, if_true, List.dropLast_singleton,
    List.getLastD_cons, List.getLastD_nil, opens]
  rfl

/-- A line that is read takes the draft along. -/
theorem lineByLine_line {next : Draft} (starts : StartsLine c)
    (read : (if c = '[' then header? draft (c :: cs) else keyValue? draft (c :: cs)) =
      some (next, '\n' :: rest)) :
    lineByLine? (fuel + 1) draft (c :: cs) = lineByLine? fuel next rest := by
  have ends : endOfLine? ('\n' :: rest) = some rest := rfl
  rw [lineByLine?, skipLines_stop starts]
  simp only [read, ends]

/-- An empty line before another one does not count. -/
theorem lineByLine_break (starts : StartsLine c) :
    lineByLine? (fuel + 1) draft ('\n' :: c :: cs) = lineByLine? (fuel + 1) draft (c :: cs) := by
  rw [lineByLine?, lineByLine?, List.length_cons, skipLines_break, List.length_cons,
    skipLines_stop starts]

end Lines

/-! ## Sections -/

section Sections

variable {fuel : Nat} {rest : List Char} {header : List String}

/-- The lines of a section. -/
def sectionChars (s : String × TomlEntries) : List Char := headerChars s.1 ++ s.2.flatMap lineChars

/-- A section under its header. -/
def underHeader (s : String × TomlEntries) : String × TomlValue := (s.1, .table .header s.2)

/-- The keys that stand under a header go to the end of its table. -/
theorem lineByLine_entries {done inner entries : TomlEntries} {name : String}
    (opened : name ∉ done.map Prod.fst) (keys : ((inner ++ entries).map Prod.fst).Nodup)
    (plain : ∀ entry ∈ entries, Plain entry.2)
    (enough : (entries.flatMap lineChars ++ rest).length < fuel) :
    ∃ left, rest.length < left ∧
      lineByLine? fuel ⟨done ++ [(name, .table .header inner)], [name]⟩
          (entries.flatMap lineChars ++ rest) =
        lineByLine? left ⟨done ++ [(name, .table .header (inner ++ entries))], [name]⟩ rest := by
  induction entries generalizing inner fuel with
  | nil =>
      rw [List.append_nil]
      exact ⟨fuel, enough, rfl⟩
  | cons entry entries ih =>
      obtain ⟨key, v⟩ := entry
      obtain ⟨first_plain, rest_plain⟩ := List.forall_mem_cons.mp plain
      have new : key ∉ inner.map Prod.fst := by
        rw [List.map_append, List.map_cons, List.nodup_append] at keys
        intro mem
        exact keys.2.2 key mem key List.mem_cons_self rfl
      have moved : inner ++ (key, v) :: entries = (inner ++ [(key, v)]) ++ entries := by simp
      rw [List.flatMap_cons, List.append_assoc] at enough ⊢
      obtain ⟨first, more, line_opened, starts, unbracketed, shorter⟩ :=
        lineChars_cons (key, v) (entries.flatMap lineChars ++ rest)
      have read : keyValue? _ (lineChars (key, v) ++ (entries.flatMap lineChars ++ rest)) = _ :=
        keyValue_line first_plain (TomlEntries.within_addDotted opened new)
      rw [line_opened] at read enough ⊢
      rw [List.length_cons] at enough
      rw [moved] at keys ⊢
      obtain ⟨fuel, rfl⟩ := Nat.exists_eq_add_one_of_ne_zero (Nat.ne_zero_of_lt enough)
      obtain ⟨left, left_enough, later⟩ := @ih fuel (inner ++ [(key, v)]) keys rest_plain (by omega)
      refine ⟨left, left_enough, ?_⟩
      rw [lineByLine_line starts (by rwa [if_neg unbracketed])]
      exact later

/-- The sections that follow go to the end of the root. -/
theorem lineByLine_sections {done : TomlEntries} {sections : List (String × TomlEntries)}
    (names : (done.map Prod.fst ++ sections.map Prod.fst).Nodup)
    (keys : ∀ s ∈ sections, (s.2.map Prod.fst).Nodup)
    (plain : ∀ s ∈ sections, ∀ entry ∈ s.2, Plain entry.2)
    (enough : (sections.flatMap fun s => '\n' :: sectionChars s).length ≤ fuel)
    (some_fuel : 0 < fuel) :
    lineByLine? fuel ⟨done, header⟩ (sections.flatMap fun s => '\n' :: sectionChars s) =
      some (done ++ sections.map underHeader) := by
  -- the header that stands does not matter, as every section begins with one of its own
  induction sections generalizing done fuel header with
  | nil =>
      obtain ⟨fuel, rfl⟩ := Nat.exists_eq_add_one_of_ne_zero (Nat.ne_of_gt some_fuel)
      rw [List.map_nil, List.append_nil]
      rfl
  | cons s sections ih =>
      obtain ⟨name, entries⟩ := s
      obtain ⟨first_keys, rest_keys⟩ := List.forall_mem_cons.mp keys
      obtain ⟨first_plain, rest_plain⟩ := List.forall_mem_cons.mp plain
      have new : name ∉ done.map Prod.fst := by
        rw [List.map_cons, List.nodup_append] at names
        intro mem
        exact names.2.2 name mem name List.mem_cons_self rfl
      have moved : done ++ underHeader (name, entries) :: sections.map underHeader =
          (done ++ [underHeader (name, entries)]) ++ sections.map underHeader := by
        simp
      have opened : ((name, entries) :: sections).flatMap (fun s => '\n' :: sectionChars s) =
          '\n' :: (headerChars name ++ (entries.flatMap lineChars ++
            sections.flatMap fun s => '\n' :: sectionChars s)) := by
        simp [sectionChars]
      have read : header? ⟨done, header⟩ (headerChars name ++ (entries.flatMap lineChars ++
          sections.flatMap fun s => '\n' :: sectionChars s)) = _ :=
        header_line (TomlEntries.within_openTable new)
      rw [List.map_cons, moved]
      rw [opened] at enough ⊢
      obtain ⟨more, header_opened, shorter⟩ := headerChars_cons name (entries.flatMap lineChars ++
        sections.flatMap fun s => '\n' :: sectionChars s)
      rw [header_opened] at read enough ⊢
      rw [List.length_cons, List.length_cons] at enough
      obtain ⟨fuel, rfl⟩ := Nat.exists_eq_add_one_of_ne_zero (Nat.ne_of_gt some_fuel)
      have step : lineByLine? (fuel + 1) ⟨done, header⟩ ('[' :: more) = _ :=
        lineByLine_line (by decide) ((if_pos rfl).trans read)
      obtain ⟨left, left_enough, later⟩ := @lineByLine_entries fuel
        (sections.flatMap fun s => '\n' :: sectionChars s) done [] entries name new first_keys
        first_plain (by omega)
      rw [lineByLine_break (by decide), step, later]
      exact ih (by simpa using names) rest_keys rest_plain (Nat.le_of_lt left_enough)
        (Nat.zero_lt_of_lt left_enough)

/-- The text of a section as characters. -/
theorem toList_sectionText (s : String × TomlEntries) :
    (sectionText s.1 s.2).toList = sectionChars s := by
  simp [sectionText, sectionChars, headerChars, keyText, List.flatMap_map]
  rfl

theorem intercalate_cons {α : Type} (separator first : List α) (others : List (List α)) :
    separator.intercalate (first :: others) =
      first ++ others.flatMap fun other => separator ++ other := by
  induction others generalizing first with
  | nil => simp
  | cons other others ih => simp [List.intercalate_cons_cons, ih]

/-- The text of sections as characters. -/
theorem toList_sectionsText (s : String × TomlEntries) (sections : List (String × TomlEntries)) :
    (sectionsText (s :: sections)).toList =
      sectionChars s ++ sections.flatMap fun s => '\n' :: sectionChars s := by
  rw [sectionsText, String.toList_intercalate, List.map_map]
  simp [List.flatMap_map, intercalate_cons, toList_sectionText]

/-- A document begins with the header of its first section. -/
theorem sectionsText_cons (s : String × TomlEntries) (sections : List (String × TomlEntries)) :
    ∃ more, (sectionsText (s :: sections)).toList = '[' :: more := by
  obtain ⟨more, opened, -⟩ := headerChars_cons s.1 (s.2.flatMap lineChars ++
    sections.flatMap fun s => '\n' :: sectionChars s)
  exact ⟨more, by rw [toList_sectionsText, sectionChars, List.append_assoc, opened]⟩

/-- The lines of a document of sections are read as the sections in their order. -/
theorem lineByLine_sectionsText {sections : List (String × TomlEntries)}
    (names : (sections.map Prod.fst).Nodup) (keys : ∀ s ∈ sections, (s.2.map Prod.fst).Nodup)
    (plain : ∀ s ∈ sections, ∀ entry ∈ s.2, Plain entry.2) :
    lineByLine? ((sectionsText sections).toList.length + 1) ⟨[], []⟩
      (sectionsText sections).toList = some (sections.map underHeader) := by
  cases sections with
  | nil => rfl
  | cons s sections =>
      obtain ⟨more, text_eq⟩ := sectionsText_cons s sections
      have lines : (s :: sections).flatMap (fun s => '\n' :: sectionChars s) =
          '\n' :: '[' :: more := by
        rw [List.flatMap_cons, List.cons_append, ← toList_sectionsText, text_eq]
      have read := @lineByLine_sections (('[' :: more).length + 1) [] [] (s :: sections) names keys
        plain (by rw [lines]; exact Nat.le_refl _) (Nat.succ_pos _)
      rw [lines, lineByLine_break (by decide), List.nil_append] at read
      rw [text_eq]
      exact read

/-- A document of sections is read as the sections in their order. -/
theorem ofText_sectionsText {sections : List (String × TomlEntries)}
    (names : (sections.map Prod.fst).Nodup) (keys : ∀ s ∈ sections, (s.2.map Prod.fst).Nodup)
    (plain : ∀ s ∈ sections, ∀ entry ∈ s.2, Plain entry.2) :
    ofText? (sectionsText sections) = resolveDocument? (sections.map underHeader) := by
  have read := lineByLine_sectionsText names keys plain
  cases sections with
  | nil => rfl
  | cons s sections =>
      obtain ⟨more, text_eq⟩ := sectionsText_cons s sections
      rw [text_eq] at read
      rw [ofText?, text_eq]
      exact congrArg (Option.bind · resolveDocument?) read

/-- Different sections have different texts. -/
theorem sections_eq_of_sectionsText {sections others : List (String × TomlEntries)}
    (names : (sections.map Prod.fst).Nodup) (keys : ∀ s ∈ sections, (s.2.map Prod.fst).Nodup)
    (plain : ∀ s ∈ sections, ∀ entry ∈ s.2, Plain entry.2)
    (other_names : (others.map Prod.fst).Nodup)
    (other_keys : ∀ s ∈ others, (s.2.map Prod.fst).Nodup)
    (other_plain : ∀ s ∈ others, ∀ entry ∈ s.2, Plain entry.2)
    (same : sectionsText sections = sectionsText others) : sections = others := by
  have injective : Function.Injective underHeader := by
    rintro ⟨name, entries⟩ ⟨other, inner⟩ equal
    simp only [underHeader, Prod.mk.injEq, TomlValue.table.injEq, true_and] at equal
    exact Prod.ext equal.1 equal.2
  have read := lineByLine_sectionsText names keys plain
  rw [same, lineByLine_sectionsText other_names other_keys other_plain] at read
  exact (List.map_injective_iff.mpr injective (Option.some.inj read)).symm

end Sections

/-! ## Tables that are no moments -/

section Resolve

variable {entries : TomlEntries} {sections : List (String × TomlEntries)}

theorem resolveItems_texts (ss : List String) :
    resolveItems? (ss.map .text) = some (ss.map .text) := by
  induction ss with
  | nil => rfl
  | cons s ss ih =>
      rw [List.map_cons, resolveItems?, ih]
      rfl

theorem resolve_plain {v : TomlValue} (plain : Plain v) : resolve? v = some v := by
  cases plain with
  | text s => rfl
  | bool b => rfl
  | natural small => rfl
  | texts ss =>
      rw [resolve?, resolveItems_texts]
      rfl

theorem resolveEntries_of_forall (each : ∀ entry ∈ entries, resolve? entry.2 = some entry.2) :
    resolveEntries? entries = some entries := by
  induction entries with
  | nil => rfl
  | cons entry entries ih =>
      obtain ⟨first, others⟩ := List.forall_mem_cons.mp each
      rw [resolveEntries?, first, ih others]
      rfl

theorem resolveEntries_eq_none {entry : String × TomlValue} (mem : entry ∈ entries)
    (unresolved : resolve? entry.2 = none) : resolveEntries? entries = none := by
  induction entries with
  | nil => cases mem
  | cons first entries ih =>
      rw [resolveEntries?]
      rcases List.mem_cons.mp mem with rfl | later
      · rw [unresolved]
        rfl
      · cases resolve? first.2 with
        | none => rfl
        | some value =>
            rw [ih later]
            rfl

/-- A section stays a table unless its first key is the reserved one. -/
theorem resolve_section (plain : ∀ entry ∈ entries, Plain entry.2)
    (unreserved : entries.head?.map Prod.fst ≠ some momentKey) :
    resolve? (.table .header entries) = some (.table .header entries) := by
  have each := resolveEntries_of_forall fun entry mem => resolve_plain (plain entry mem)
  cases entries with
  | nil => rfl
  | cons entry entries =>
      have apart : entry.1 ≠ momentKey := fun same => unreserved (congrArg some same)
      rw [resolve?, if_neg apart, each]
      rfl

/-- Sections whose first keys are not reserved stay what they are. -/
theorem resolveDocument_sections (plain : ∀ s ∈ sections, ∀ entry ∈ s.2, Plain entry.2)
    (unreserved : ∀ s ∈ sections, s.2.head?.map Prod.fst ≠ some momentKey)
    (start : sections.head?.map Prod.fst ≠ some momentKey) :
    resolveDocument? (sections.map underHeader) = some (sections.map underHeader) := by
  have head : (sections.map underHeader).head?.map Prod.fst ≠ some momentKey := by
    rwa [List.head?_map, Option.map_map]
  rw [resolveDocument?, if_neg head]
  refine resolveEntries_of_forall fun entry mem => ?_
  obtain ⟨s, listed, rfl⟩ := List.mem_map.mp mem
  exact resolve_section (plain s listed) (unreserved s listed)

/-- Sections of plain values are read from their text, unless a reserved key comes first. -/
theorem ofText_of_plain (names : (sections.map Prod.fst).Nodup)
    (keys : ∀ s ∈ sections, (s.2.map Prod.fst).Nodup)
    (plain : ∀ s ∈ sections, ∀ entry ∈ s.2, Plain entry.2)
    (unreserved : ∀ s ∈ sections, s.2.head?.map Prod.fst ≠ some momentKey)
    (start : sections.head?.map Prod.fst ≠ some momentKey) :
    ofText? (sectionsText sections) = some (sections.map underHeader) := by
  rw [ofText_sectionsText names keys plain]
  exact resolveDocument_sections plain unreserved start

/-- A list at the reserved key, where that is the first of its section, makes the document none. -/
theorem resolveDocument_reserved {name : String} {items : List TomlValue}
    (mem : (name, (momentKey, .array items) :: entries) ∈ sections) :
    resolveDocument? (sections.map underHeader) = none := by
  rw [resolveDocument?]
  split
  · rfl
  · refine resolveEntries_eq_none (List.mem_map.mpr ⟨_, mem, rfl⟩) ?_
    rw [underHeader, resolve?, if_pos rfl]
    rfl

end Resolve

end Toml

end LoadHarness
