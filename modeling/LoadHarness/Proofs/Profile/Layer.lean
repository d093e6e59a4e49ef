import Mathlib
import LoadHarness.Profile.Layer
import LoadHarness.Proofs.Text.Lowercase

/-!
# Layers of settings

Whatever is put over settings, the keys of a table are in lower case and in ascending order, so no
key stands twice. New entries whose keys are in lower case and differ from each other and from all
that is there are found in the joined table as they are.
-/

namespace LoadHarness

namespace Setting

variable {key : String} {value old : Setting} {entries table : List (String × Setting)}

/-! ## Keys in order -/

/-- The keys of a table: in ascending order and in lower case. -/
structure OrderedKeys (entries : List (String × Setting)) : Prop where
  ascending : entries.Pairwise fun a b => a.1 < b.1
  lower : ∀ entry ∈ entries, lowerText entry.1 = entry.1

theorem OrderedKeys.nil : OrderedKeys [] := ⟨.nil, fun _ mem => absurd mem List.not_mem_nil⟩

theorem OrderedKeys.nodup (ordered : OrderedKeys entries) : (entries.map Prod.fst).Nodup :=
  (List.pairwise_map.mpr ordered.ascending).imp fun less => ne_of_lt less

/-- Rows with the names of a table's keys have different names in lower case. -/
theorem OrderedKeys.names {α : Type} {rows : List (String × α)} (ordered : OrderedKeys entries)
    (same : rows.map Prod.fst = entries.map Prod.fst) :
    (rows.map Prod.fst).Nodup ∧ ∀ row ∈ rows, lowerText row.1 = row.1 := by
  refine ⟨same ▸ ordered.nodup, fun row mem => ?_⟩
  have listed : row.1 ∈ entries.map Prod.fst := same ▸ List.mem_map.mpr ⟨row, mem, rfl⟩
  obtain ⟨entry, there, name_eq⟩ := List.mem_map.mp listed
  rw [← name_eq]
  exact ordered.lower entry there

theorem mem_insertAt {entry : String × Setting} (mem : entry ∈ insertAt key value entries) :
    entry = (key, value) ∨ entry ∈ entries := by
  induction entries with
  | nil => exact .inl (List.mem_singleton.mp mem)
  | cons first entries ih =>
      rw [insertAt] at mem
      split at mem
      · exact (List.mem_cons.mp mem).imp_right (List.mem_cons_of_mem first)
      split at mem
      · exact List.mem_cons.mp mem
      · rcases List.mem_cons.mp mem with rfl | later
        · exact .inr List.mem_cons_self
        · exact (ih later).imp_right (List.mem_cons_of_mem first)

theorem OrderedKeys.insertAt (ordered : OrderedKeys entries) (lower : lowerText key = key) :
    OrderedKeys (insertAt key value entries) := by
  constructor
  · have ascending := ordered.ascending
    clear ordered
    induction entries with
    | nil => exact List.pairwise_singleton _ _
    | cons first entries ih =>
        obtain ⟨before, others⟩ := List.pairwise_cons.mp ascending
        rw [Setting.insertAt]
        split
        · next same =>
          refine List.pairwise_cons.mpr ⟨fun entry mem => ?_, others⟩
          rw [same]
          exact before entry mem
        split
        · next less =>
          refine List.pairwise_cons.mpr ⟨fun entry mem => ?_, ascending⟩
          rcases List.mem_cons.mp mem with rfl | later
          · exact less
          · exact lt_trans less (before entry later)
        · next unlike more =>
          refine List.pairwise_cons.mpr ⟨fun entry mem => ?_, ih others⟩
          rcases mem_insertAt mem with rfl | later
          · exact lt_of_le_of_ne (not_lt.mp more) (Ne.symm unlike)
          · exact before entry later
  · intro entry mem
    rcases mem_insertAt mem with rfl | later
    · exact lower
    · exact ordered.lower entry later

/-- Joined entries are in order again. -/
theorem OrderedKeys.joinEntries (ordered : OrderedKeys table) :
    OrderedKeys (joinEntries table entries) := by
  induction entries generalizing table with
  | nil =>
      rw [Setting.joinEntries]
      exact ordered
  | cons entry entries ih =>
      rw [Setting.joinEntries]
      exact ih (ordered.insertAt (lowerText_lowerText _))

/-! ## Tables of tables -/

/-- A setting whose keys are in order, if it is a table. -/
def Ordered (s : Setting) : Prop := OrderedKeys s.entries

/-- The tables of a table are in order too. -/
structure Deep (s : Setting) : Prop where
  keys : Ordered s
  tables : ∀ entry ∈ s.entries, Ordered entry.2

theorem ordered_lookup (tables : ∀ entry ∈ entries, Ordered entry.2) :
    Ordered (lookup key entries) := by
  rw [lookup]
  cases found : entries.find? (·.1 == key) with
  | none => exact .nil
  | some entry => exact tables entry (List.mem_of_find?_eq_some found)

/-- What takes the place of a setting is in order. -/
theorem ordered_cover {before : Option Setting} (ordered : ∀ s, before = some s → Ordered s) :
    Ordered (cover before value) := by
  cases value with
  | table entries origin =>
      cases entries with
      | nil =>
          rw [cover]
          cases before with
          | none => exact .nil
          | some s => exact ordered s rfl
      | cons entry entries =>
          rw [cover]
          · cases before with
            | none => exact OrderedKeys.nil.joinEntries
            | some s => exact (ordered s rfl).joinEntries
          · rintro ⟨⟩
  | absent => exact .nil
  | bool b origin => exact .nil
  | integer n origin => exact .nil
  | real x origin => exact .nil
  | text s origin => exact .nil
  | list items origin => exact .nil

/-- What is put at a path is a list or a table in order. -/
theorem ordered_putAt {path : List PathStep} (step : path ≠ []) (ordered : Ordered old) :
    Ordered (putAt path value old) := by
  match path with
  | [] => exact absurd rfl step
  | [.name key] => exact ordered.joinEntries
  | .name key :: next :: path =>
      rw [putAt]
      · exact ordered.insertAt (lowerText_lowerText key)
      · rintro ⟨⟩
  | .place index :: path =>
      rw [putAt]
      exact .nil

theorem deep_putAt {name : String} {path : List PathStep} (deep : Deep old) :
    Deep (putAt (.name name :: path) value old) := by
  refine ⟨ordered_putAt (List.cons_ne_nil _ _) deep.keys, ?_⟩
  -- only the setting at the first name of the path changes, whatever the rest of the path is
  have inserted {s : Setting} (ordered : Ordered s) :
      ∀ entry ∈ insertAt (lowerText name) s old.entries, Ordered entry.2 := by
    intro entry mem
    rcases mem_insertAt mem with rfl | there
    · exact ordered
    · exact deep.tables entry there
  cases path with
  | nil =>
      rw [putAt, entries, joinEntries, joinEntries]
      refine inserted (ordered_cover fun s before => ?_)
      split at before
      · exact Option.some.inj before ▸ ordered_lookup deep.tables
      · cases before
  | cons next path =>
      rw [putAt]
      · exact inserted (ordered_putAt (List.cons_ne_nil _ _) (ordered_lookup deep.tables))
      · rintro ⟨⟩

/-- A path begins with a name. -/
theorem pathOf_cons (text : String) : ∃ name path, pathOf text = .name name :: path := by
  rw [pathOf]
  split
  split
  · exact ⟨_, _, rfl⟩
  · exact ⟨_, _, rfl⟩

/-- Layers make a table of tables in order. -/
theorem deep_layer (layers : List (String × Setting)) (start : List (String × Setting))
    (origin : Option String) (deep : Deep (.table start origin)) :
    ∃ table place, layer (.table start origin) layers = .table table place ∧
      Deep (.table table place) := by
  induction layers generalizing start origin with
  | nil => exact ⟨start, origin, rfl, deep⟩
  | cons entry layers ih =>
      obtain ⟨name, path, path_eq⟩ := pathOf_cons entry.1
      have next : Deep (putAt (pathOf entry.1) entry.2 (.table start origin)) := by
        rw [path_eq]
        exact deep_putAt deep
      have shape : ∃ table, putAt (pathOf entry.1) entry.2 (.table start origin) =
          .table table none := by
        rw [path_eq]
        cases path with
        | nil => exact ⟨_, rfl⟩
        | cons next path => exact ⟨_, rfl⟩
      obtain ⟨table, put_eq⟩ := shape
      have step : layer (.table start origin) (entry :: layers) =
          layer (.table table none) layers :=
        congrArg (layer · layers) put_eq
      rw [step]
      exact ih table none (put_eq ▸ next)

/-! ## New entries -/

/-- A new entry is put somewhere among the others. -/
theorem insertAt_perm (new : key ∉ table.map Prod.fst) :
    (insertAt key value table).Perm ((key, value) :: table) := by
  induction table with
  | nil => exact .refl _
  | cons first table ih =>
      obtain ⟨unlike, apart⟩ := List.ne_and_not_mem_of_not_mem_cons new
      rw [insertAt, if_neg unlike]
      split
      · exact .refl _
      · exact ((ih apart).cons first).trans (.swap _ _ _)

/-- New entries whose keys are in lower case are joined as they are. -/
theorem joinEntries_perm (lower : ∀ entry ∈ entries, lowerText entry.1 = entry.1)
    (names : (table.map Prod.fst ++ entries.map Prod.fst).Nodup) :
    (joinEntries table entries).Perm
      (table ++ entries.map fun entry => (entry.1, cover none entry.2)) := by
  -- an entry that was put belongs to the table for those after it, whose names differ from it
  induction entries generalizing table with
  | nil =>
      rw [joinEntries, List.map_nil, List.append_nil]
  | cons entry entries ih =>
      obtain ⟨key, value⟩ := entry
      obtain ⟨first, others⟩ := List.forall_mem_cons.mp lower
      have new : key ∉ table.map Prod.fst := by
        rw [List.map_cons, List.nodup_append] at names
        intro mem
        exact names.2.2 key mem key List.mem_cons_self rfl
      have absent : hasKey key table = false := by
        rw [hasKey, List.any_eq_false]
        intro entry mem same
        exact new (List.mem_map.mpr ⟨entry, mem, beq_iff_eq.mp same⟩)
      have perm := @insertAt_perm key (cover none value) table new
      rw [joinEntries, first]
      simp only [absent, Bool.false_eq_true, if_false]
      refine (ih others ?_).trans ?_
      · refine (List.Perm.nodup_iff ?_).mp names
        refine List.perm_middle.trans ?_
        exact ((perm.map Prod.fst).append_right _).symm
      · rw [List.map_cons]
        refine (perm.append_right _).trans ?_
        exact List.perm_middle.symm

theorem insertAt_ne_nil : insertAt key value table ≠ [] := by
  cases table with
  | nil => exact List.cons_ne_nil _ _
  | cons first table =>
      rw [insertAt]
      split
      · exact List.cons_ne_nil _ _
      split
      · exact List.cons_ne_nil _ _
      · exact List.cons_ne_nil _ _

/-- Where entries are joined, there are entries. -/
theorem joinEntries_ne_nil (filled : table ≠ [] ∨ entries ≠ []) :
    joinEntries table entries ≠ [] := by
  induction entries generalizing table with
  | nil =>
      rw [joinEntries]
      exact filled.resolve_right fun some => some rfl
  | cons entry entries ih =>
      rw [joinEntries]
      exact ih (.inl insertAt_ne_nil)

/-! ## Documents of sections -/

/-- The setting of a section. -/
theorem cover_table (entries : List (String × Setting)) (origin : Option String) :
    cover none (.table entries origin) = .table (joinEntries [] entries) none := by
  cases entries with
  | nil =>
      rw [cover, joinEntries]
      rfl
  | cons entry entries =>
      rw [cover]
      · rfl
      · rintro ⟨⟩

/-- Sections under plain names are joined as a table of them. -/
theorem layer_of_names (plain : ∀ entry ∈ entries, pathOf entry.1 = [.name entry.1]) :
    layer (.table table none) entries = .table (joinEntries table entries) none := by
  induction entries generalizing table with
  | nil =>
      rw [joinEntries]
      rfl
  | cons entry entries ih =>
      obtain ⟨key, value⟩ := entry
      obtain ⟨first, others⟩ := List.forall_mem_cons.mp plain
      have step : layer (.table table none) ((key, value) :: entries) =
          layer (putAt [.name key] value (.table table none)) entries :=
        congrArg (fun path => layer (putAt path value (.table table none)) entries) first
      rw [step, putAt, ih others, Setting.entries]
      simp only [joinEntries]

end Setting

end LoadHarness
