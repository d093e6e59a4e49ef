import Mathlib
import LoadHarness.Proofs.Threshold.Defaults

/-!
# Thresholds of a table

A table that is accepted gives one threshold for each of its expressions, in their order: for
the series of its row, with the text in place, and with an aggregation that the series has.
-/

namespace LoadHarness

/-- In lists that are related one by one, each member has one that it is related to. -/
theorem exists_of_forall₂ {α β : Type} {related : α → β → Prop} {xs : List α} {ys : List β}
    (each : List.Forall₂ related xs ys) {x : α} (mem : x ∈ xs) : ∃ y ∈ ys, related x y := by
  induction each with
  | nil => cases mem
  | @cons first y xs ys here others ih =>
      rcases List.mem_cons.mp mem with rfl | later
      · exact ⟨y, List.mem_cons_self, here⟩
      · obtain ⟨z, there, found⟩ := ih later
        exact ⟨z, List.mem_cons_of_mem y there, found⟩

/-- A list is mapped to another if its members are, one by one. -/
theorem mapM_eq_ok_iff {α β ε : Type} {f : α → Except ε β} {xs : List α} {ys : List β} :
    xs.mapM f = .ok ys ↔ List.Forall₂ (fun x y => f x = .ok y) xs ys := by
  induction xs generalizing ys with
  | nil => cases ys <;> simp [pure, Except.pure]
  | cons x rest ih =>
      rw [List.mapM_cons]
      cases first : f x with
      | error e => cases ys <;> simp [bind, Except.bind, first]
      | ok y =>
          cases others : rest.mapM f with
          | error e => cases ys <;> simp [bind, Except.bind, ← ih, others, first]
          | ok zs => cases ys <;> simp [bind, Except.bind, pure, Except.pure, ← ih, others, first]

/-- A list is mapped to some other if each of its members is mapped to something. -/
theorem exists_mapM {α β ε : Type} {f : α → Except ε β} {xs : List α}
    (each : ∀ x ∈ xs, ∃ y, f x = .ok y) : ∃ ys, xs.mapM f = .ok ys := by
  induction xs with
  | nil => exact ⟨[], rfl⟩
  | cons x rest ih =>
      obtain ⟨⟨y, first⟩, others⟩ := List.forall_mem_cons.mp each
      obtain ⟨ys, mapped⟩ := ih others
      exact ⟨y :: ys, mapM_eq_ok_iff.mpr (.cons first (mapM_eq_ok_iff.mp mapped))⟩

/-- A list is not mapped if one of its members is refused, for the only reason there is. -/
theorem mapM_eq_error {α β ε : Type} {f : α → Except ε β} {xs : List α} {e : ε}
    (refused : ∃ x ∈ xs, f x = .error e) (each : ∀ x ∈ xs, f x = .error e ∨ ∃ y, f x = .ok y) :
    xs.mapM f = .error e := by
  induction xs with
  | nil =>
      obtain ⟨x, mem, -⟩ := refused
      cases mem
  | cons x rest ih =>
      obtain ⟨first, others⟩ := List.forall_mem_cons.mp each
      rw [List.mapM_cons]
      rcases first with stopped | ⟨y, passed⟩
      · rw [stopped]
        rfl
      · have later : ∃ x ∈ rest, f x = .error e := by
          obtain ⟨z, mem, stopped⟩ := refused
          rcases List.mem_cons.mp mem with rfl | mem
          · cases stopped.symm.trans passed
          · exact ⟨z, mem, stopped⟩
        rw [passed, ih later others]
        rfl

/-- The expressions of a table with the names of their series, in order. -/
def ThresholdTable.expressions (table : ThresholdTable) : List (String × String) :=
  table.flatMap fun row => row.2.map (row.1, ·)

/-- No expression is blank. -/
theorem Expression.not_blank {source : String} {e : Expression} (read : ofText? source = .ok e) :
    isBlankText source = false := by
  cases blank : isBlankText source with
  | false => rfl
  | true =>
      have nothing : source.toList.filter (fun c => !isBlank c) = [] := by
        rw [List.filter_eq_nil_iff]
        intro c mem
        simpa using List.all_eq_true.mp blank c mem
      rw [ofText?, nothing] at read
      cases read

namespace Threshold

/-- A threshold for an expression that a series can meet. -/
structure Reads (kindOf : String → Option SeriesKind) (entry : String × String)
    (t : Threshold) : Prop where
  series : t.series = entry.1
  source : t.source = trimBlank entry.2
  expression : Expression.ofText? entry.2 = .ok t.expression
  supported : ∃ kind, kindOf entry.1 = some kind ∧ t.expression.aggregation.supports kind = true

theorem reads_ofSource {kindOf : String → Option SeriesKind} {series source : String}
    {kind : SeriesKind} {t : Threshold} (known : kindOf series = some kind)
    (read : ofSource? series kind source = .ok t) : t.Reads kindOf (series, source) := by
  simp only [ofSource?] at read
  split at read
  · cases read
  · next expression parsed =>
    split at read
    · next supports =>
      obtain rfl := Except.ok.inj read
      exact ⟨rfl, rfl, parsed, kind, known, supports⟩
    · cases read

theorem reads_ofRow {kindOf : String → Option SeriesKind} {row : String × List String}
    {ts : List Threshold} (read : ofRow? kindOf row = .ok ts) :
    List.Forall₂ (fun entry t => Reads kindOf entry t) (row.2.map (row.1, ·)) ts := by
  simp only [ofRow?] at read
  split at read
  · cases read
  · next kind known =>
    rw [List.forall₂_map_left_iff]
    exact (mapM_eq_ok_iff.mp read).imp fun source t one => reads_ofSource known one

/-- A row is accepted if its series is known and has the aggregations of the expressions. -/
theorem ofRow_of_supported {kindOf : String → Option SeriesKind} {row : String × List String}
    {kind : SeriesKind} (known : kindOf row.1 = some kind)
    (supported : ∀ source ∈ row.2,
      ∃ e, Expression.ofText? source = .ok e ∧ e.aggregation.supports kind = true) :
    ∃ ts, ofRow? kindOf row = .ok ts := by
  rw [ofRow?, known]
  refine exists_mapM fun source mem => ?_
  obtain ⟨e, read, supports⟩ := supported source mem
  refine ⟨⟨row.1, trimBlank source, e⟩, ?_⟩
  simp only [ofSource?, read]
  exact if_pos supports

/-- What an accepted row has: a series that is known and expressions. -/
theorem known_of_ofRow {kindOf : String → Option SeriesKind} {row : String × List String}
    {ts : List Threshold} (read : ofRow? kindOf row = .ok ts) :
    (∃ kind, kindOf row.1 = some kind) ∧
      ∀ source ∈ row.2, ∃ e, Expression.ofText? source = .ok e := by
  have each := reads_ofRow read
  constructor
  · rw [ofRow?] at read
    cases known : kindOf row.1 with
    | none =>
        rw [known] at read
        cases read
    | some kind => exact ⟨kind, rfl⟩
  · intro source mem
    obtain ⟨t, -, one⟩ := exists_of_forall₂ each (List.mem_map.mpr ⟨source, mem, rfl⟩)
    exact ⟨t.expression, one.expression⟩

/-- A table is accepted if its rows are. -/
theorem exists_ofTable {kindOf : String → Option SeriesKind} {table : ThresholdTable}
    (each : ∀ row ∈ table, ∃ ts, ofRow? kindOf row = .ok ts) :
    ∃ ts, ofTable? kindOf table = .ok ts := by
  obtain ⟨tss, rows⟩ := exists_mapM each
  refine ⟨tss.flatten, ?_⟩
  rw [ofTable?, rows]
  rfl

/-- A table is refused if one of its rows is, for the only reason there is. -/
theorem ofTable_eq_error {kindOf : String → Option SeriesKind} {table : ThresholdTable}
    {e : ThresholdError} (refused : ∃ row ∈ table, ofRow? kindOf row = .error e)
    (each : ∀ row ∈ table, ofRow? kindOf row = .error e ∨ ∃ ts, ofRow? kindOf row = .ok ts) :
    ofTable? kindOf table = .error e := by
  rw [ofTable?, mapM_eq_error refused each]
  rfl

/-- An accepted table gives a threshold for each of its expressions, in their order. -/
theorem reads_ofTable {kindOf : String → Option SeriesKind} {table : ThresholdTable}
    {ts : List Threshold} (read : ofTable? kindOf table = .ok ts) :
    List.Forall₂ (fun entry t => Reads kindOf entry t) table.expressions ts := by
  simp only [ofTable?] at read
  cases rows : table.mapM (ofRow? kindOf) with
  | error e =>
      rw [rows] at read
      cases read
  | ok tss =>
      rw [rows] at read
      obtain rfl := Except.ok.inj read
      have each := (mapM_eq_ok_iff.mp rows).imp fun row ts one => reads_ofRow one
      exact List.rel_flatten (List.forall₂_map_left_iff.mpr each)

end Threshold

end LoadHarness
