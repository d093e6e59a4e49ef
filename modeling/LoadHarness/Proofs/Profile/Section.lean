import Mathlib
import LoadHarness.Profile.Reader
import LoadHarness.Proofs.Duration.Text
import LoadHarness.Proofs.Net.Address
import LoadHarness.Proofs.Profile.Layer

/-!
# Sections of settings

A section is read key by key. What is read is within the bounds of its kind, and the settings of a
section that is a table of them, in whatever order, are read as the values they were made from.
-/

namespace LoadHarness

/-! ## Reading without a fault -/

section Except

variable {ε α β : Type}

theorem ok_bind {a : α} {f : α → Except ε β} : (.ok a >>= f) = f a := rfl

theorem bind_eq_ok {x : Except ε α} {f : α → Except ε β} {b : β} :
    (x >>= f) = .ok b ↔ ∃ a, x = .ok a ∧ f a = .ok b := by
  cases x with
  | error e => simp [bind, Except.bind]
  | ok a => simp [bind, Except.bind]

theorem bind_eq_error {x : Except ε α} {f : α → Except ε β} {e : ε} :
    (x >>= f) = .error e ↔ x = .error e ∨ ∃ a, x = .ok a ∧ f a = .error e := by
  cases x with
  | error cause => simp [bind, Except.bind]
  | ok a => simp [bind, Except.bind]

theorem mapError_eq_error {ε' : Type} {x : Except ε α} {f : ε → ε'} {e : ε'} :
    x.mapError f = .error e ↔ ∃ cause, x = .error cause ∧ f cause = e := by
  cases x with
  | error cause => simp [Except.mapError]
  | ok a => simp [Except.mapError]

theorem mapError_eq_ok {ε' : Type} {x : Except ε α} {f : ε → ε'} {a : α} :
    x.mapError f = .ok a ↔ x = .ok a := by
  cases x with
  | error e => simp [Except.mapError]
  | ok a => simp [Except.mapError]

theorem toOption_eq_some {x : Except ε α} {a : α} : x.toOption = some a ↔ x = .ok a := by
  cases x with
  | error e => simp [Except.toOption]
  | ok a => simp [Except.toOption]

theorem map_eq_ok {x : Except ε α} {f : α → β} {b : β} :
    x.map f = .ok b ↔ ∃ a, x = .ok a ∧ f a = b := by
  cases x with
  | error e => simp [Except.map]
  | ok a => simp [Except.map]

end Except

namespace Setting

/-! ## Keys of a section -/

section Keys

variable {α : Type} {key : String} {s : Setting} {read : Decoder α} {other a : α}
  {values table : List (String × Setting)} {settings : Section}

/-- Where no key stands twice, every entry is the one of its key. -/
theorem find_of_nodup {table : List (String × α)} (nodup : (table.map Prod.fst).Nodup)
    (mem : (key, a) ∈ table) : table.find? (·.1 == key) = some (key, a) := by
  induction table with
  | nil => cases mem
  | cons entry table ih =>
      rw [List.map_cons, List.nodup_cons] at nodup
      rcases List.mem_cons.mp mem with rfl | later
      · exact List.find?_cons_of_pos (by simp)
      · have unlike : entry.1 ≠ key := by
          rintro rfl
          exact nodup.1 (List.mem_map.mpr ⟨_, later, rfl⟩)
        rw [List.find?_cons_of_neg (by simpa using unlike), ih nodup.2 later]

/-- The setting is a table of the given ones in some order, and none of them is there twice. -/
def TableOf (s : Setting) (values : List (String × Setting)) : Prop :=
  ∃ table origin, s = .table table origin ∧ table.Perm values ∧ (values.map Prod.fst).Nodup

/-- The settings of a section are found at their keys. -/
structure Section.Holds (settings : Section) (values : List (String × Setting)) : Prop where
  found : ∀ key s, (key, s) ∈ values → settings.find? (·.1 == key) = some (key, .name key, s)
  missing : ∀ key, key ∉ values.map Prod.fst → settings.find? (·.1 == key) = none

/-- A table of settings is a section of them. -/
theorem TableOf.section (t : TableOf s values) (name : String) (keys : List String) :
    ∃ settings, readSection name keys s = .ok settings ∧ settings.Holds values := by
  obtain ⟨table, origin, rfl, perm, nodup⟩ := t
  have table_nodup : (table.map Prod.fst).Nodup := (perm.map Prod.fst).nodup_iff.mpr nodup
  refine ⟨_, rfl, ?_, ?_⟩
  · intro key s mem
    have found := find_of_nodup table_nodup (perm.mem_iff.mpr mem)
    rw [List.find?_map]
    exact congrArg (Option.map _) found
  · intro key absent
    rw [List.find?_map, Option.map_eq_none_iff, List.find?_eq_none]
    intro entry mem same
    exact absent (List.mem_map.mpr ⟨entry, perm.mem_iff.mp mem, beq_iff_eq.mp same⟩)

/-- A setting that is there is read. -/
theorem Section.Holds.read_eq (holds : settings.Holds values) (mem : (key, s) ∈ values)
    (ok : read s = .ok a) : settings.read key read other = .ok a := by
  rw [Section.read, holds.found key s mem]
  simp only [ok, Except.mapError]

/-- A setting that is not there has its default. -/
theorem Section.Holds.read_default (holds : settings.Holds values)
    (absent : key ∉ values.map Prod.fst) : settings.read key read other = .ok other := by
  rw [Section.read, holds.missing key absent]

/-- What is read from a section is a default or read from a setting. -/
theorem Section.read_keeps {p : α → Prop} (default : p other)
    (each : ∀ s a, read s = .ok a → p a) (ok : settings.read key read other = .ok a) : p a := by
  rw [Section.read] at ok
  split at ok
  · exact each _ _ (mapError_eq_ok.mp ok)
  · exact Except.ok.inj ok ▸ default

end Keys

/-! ## Lists and tables -/

section Tables

variable {α β : Type} {s : Setting} {read : Decoder α}

theorem readItems_map {write : β → Setting} {read : Decoder β} {index : Nat} {xs : List β}
    (back : ∀ x, read (write x) = .ok x) : readItems read index (xs.map write) = .ok xs := by
  induction xs generalizing index with
  | nil => rfl
  | cons x xs ih =>
      rw [List.map_cons, readItems, back, ih]
      rfl

/-- The keys of a table are the names of what is read from it. -/
theorem keys_of_readTable {rows : List (String × α)} (ok : readTable read s = .ok rows) :
    ∃ table origin, s = .table table origin ∧ rows.map Prod.fst = table.map Prod.fst := by
  cases s with
  | table table origin =>
      refine ⟨table, origin, rfl, ?_⟩
      rw [readTable] at ok
      induction table generalizing rows with
      | nil =>
          obtain rfl := Except.ok.inj ok
          rfl
      | cons entry table ih =>
          rw [List.mapM_cons] at ok
          obtain ⟨row, first, ok⟩ := bind_eq_ok.mp ok
          obtain ⟨others, rest, same⟩ := bind_eq_ok.mp ok
          obtain rfl := Except.ok.inj same
          obtain ⟨a, -, rfl⟩ := map_eq_ok.mp first
          rw [List.map_cons, List.map_cons, ih rest]
  | absent => cases ok
  | bool b origin => cases ok
  | integer n origin => cases ok
  | real x origin => cases ok
  | text s origin => cases ok
  | list items origin => cases ok

/-- A table is read row by row, in the order in which it is. -/
theorem readTable_of {write : α → Setting} {rows : List (String × α)}
    (back : ∀ a, read (write a) = .ok a)
    (t : TableOf s (rows.map fun row => (row.1, write row.2))) :
    ∃ found, readTable read s = .ok found ∧ found.Perm rows := by
  obtain ⟨table, origin, rfl, perm, -⟩ := t
  have ordered := congrFun (congrFun
    (List.eq_map_comp_perm fun row : String × α => (row.1, write row.2)) table) rows
  obtain ⟨found, rfl, same⟩ := ordered.mpr perm
  refine ⟨found, ?_, same⟩
  clear same perm ordered
  rw [readTable]
  induction found with
  | nil => rfl
  | cons row found ih =>
      rw [List.map_cons, List.mapM_cons, ih]
      simp only [back]
      rfl

end Tables

end Setting

end LoadHarness
