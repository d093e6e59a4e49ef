import Mathlib
import LoadHarness.Text.Blank
import LoadHarness.Text.Lowercase

/-!
# Texts in lower case

A character is in lower case if no rule of the lower-case form concerns it. The lower-case form
of a text holds such characters only, and a text of such characters is its own lower-case form;
so to lower-case a text twice is to do it once. No character becomes blank.
-/

namespace LoadHarness

namespace ShiftRun

/-- The code point at which the run begins once it is moved. -/
def movedFirst (r : ShiftRun) : Nat := ((r.first : Int) + r.shift).toNat

/-- The code point at which the run ends once it is moved. -/
def movedLast (r : ShiftRun) : Nat := ((r.last : Int) + r.shift).toNat

/-- A moved run stays among the code points of characters. -/
def staysValid (r : ShiftRun) : Bool :=
  decide (0 ≤ (r.first : Int) + r.shift) &&
    (Nat.blt r.movedLast 0xD800 || (Nat.blt 0xDFFF r.movedFirst && Nat.blt r.movedLast 0x110000))

/-- A moved run meets no member of another: it ends before it, begins after it or leaves out
every second code point where the other has one. -/
def misses (r s : ShiftRun) : Bool :=
  Nat.blt r.movedLast s.first || Nat.blt s.last r.movedFirst ||
    (s.stride == 2 && (r.stride == 2 || r.first == r.last) && (r.movedFirst + s.first) % 2 == 1)

theorem covers_iff {r : ShiftRun} {n : Nat} :
    r.covers n = true ↔ r.first ≤ n ∧ n ≤ r.last ∧ (n - r.first) % r.stride = 0 := by
  simp [covers, and_assoc]

variable {r s : ShiftRun} {n m : Nat}

/-- A member of a run keeps its distance from the first when the run is moved. -/
theorem moved_eq (valid : r.staysValid = true) (covers : r.covers n = true)
    (moved : ((n : Int) + r.shift).toNat = m) :
    r.movedFirst ≤ m ∧ m ≤ r.movedLast ∧ m - r.movedFirst = n - r.first := by
  rw [covers_iff] at covers
  simp only [staysValid, Bool.and_eq_true, decide_eq_true_eq] at valid
  simp only [movedFirst, movedLast]
  omega

theorem isValidChar_of_moved (valid : r.staysValid = true) (covers : r.covers n = true)
    (moved : ((n : Int) + r.shift).toNat = m) : m.isValidChar := by
  obtain ⟨first, last, -⟩ := moved_eq valid covers moved
  simp only [staysValid, Bool.and_eq_true, Bool.or_eq_true, Nat.blt_eq] at valid
  simp only [Nat.isValidChar]
  omega

/-- The character that a member of a run is moved to. -/
theorem toNat_moved {c : Char} (valid : r.staysValid = true) (covers : r.covers c.toNat = true) :
    (Char.ofNat ((c.toNat : Int) + r.shift).toNat).toNat = ((c.toNat : Int) + r.shift).toNat := by
  rw [Char.ofNat, dif_pos (isValidChar_of_moved valid covers rfl)]
  rfl

theorem not_covers_of_misses (valid : r.staysValid = true) (misses : r.misses s = true)
    (covers : r.covers n = true) (moved : ((n : Int) + r.shift).toNat = m) :
    s.covers m = false := by
  obtain ⟨first, last, distance⟩ := moved_eq valid covers moved
  rw [covers_iff] at covers
  rw [Bool.eq_false_iff, ne_eq, covers_iff]
  rintro ⟨after, before, even⟩
  simp only [ShiftRun.misses, Bool.or_eq_true, Bool.and_eq_true, Nat.blt_eq, beq_iff_eq] at misses
  rcases misses with (early | late) | ⟨⟨stride, same⟩, odd⟩
  · omega
  · omega
  · rw [stride] at even
    rcases same with pairs | single
    · rw [pairs] at covers
      omega
    · omega

end ShiftRun

/-! ## Characters in lower case -/

/-- No rule of the lower-case form concerns the character. -/
structure IsLower (c : Char) : Prop where
  undotted : c.toNat ≠ 0x130
  uncovered : ∀ r ∈ lowerRuns, r.covers c.toNat = false

instance (c : Char) : Decidable (IsLower c) :=
  decidable_of_iff (c.toNat ≠ 0x130 ∧ ∀ r ∈ lowerRuns, r.covers c.toNat = false)
    ⟨fun h => ⟨h.1, h.2⟩, fun h => ⟨h.1, h.2⟩⟩

/-- Runs move to where no run begins, and away from the capital I with a dot. -/
theorem lowerRuns_settle :
    (lowerRuns.all fun r => r.staysValid && r.misses ⟨0x130, 0x130, 1, 0⟩ &&
      lowerRuns.all r.misses) = true := by
  decide +kernel

/-- A character that is moved by a run is in lower case. -/
theorem isLower_of_move {r : ShiftRun} {c : Char} (mem : r ∈ lowerRuns)
    (covers : r.covers c.toNat = true) :
    IsLower (Char.ofNat ((c.toNat : Int) + r.shift).toNat) := by
  have settle := List.all_eq_true.mp lowerRuns_settle r mem
  simp only [Bool.and_eq_true, List.all_eq_true] at settle
  obtain ⟨⟨valid, dotted⟩, others⟩ := settle
  have code := ShiftRun.toNat_moved valid covers
  constructor
  · rw [code]
    intro same
    have missed := ShiftRun.not_covers_of_misses valid dotted covers same
    cases missed
  · intro s mem
    rw [code]
    exact ShiftRun.not_covers_of_misses valid (others s mem) covers rfl

/-- The letters that have rules of their own. -/
theorem isLower_special :
    IsLower 'i' ∧ IsLower '\u0307' ∧ IsLower '\u03C2' ∧ IsLower '\u03C3' := by
  decide +kernel

/-- The first run moves the capital letters below 128, and all others begin further up. -/
theorem lowerRuns_ascii :
    ∃ rest, lowerRuns = ⟨65, 90, 1, 32⟩ :: rest ∧ ∀ r ∈ rest, 128 ≤ r.first := by
  refine ⟨lowerRuns.tail, rfl, ?_⟩
  have later : (lowerRuns.tail.all fun r => Nat.ble 128 r.first) = true := by
    decide +kernel
  intro r mem
  exact Nat.le_of_ble_eq_true (List.all_eq_true.mp later r mem)

/-- What lower-casing does below 128. -/
theorem toLower_ascii :
    ∀ n < 128, (Char.ofNat n).toLower =
      if 65 ≤ n ∧ n ≤ 90 then Char.ofNat (n + 32) else Char.ofNat n := by
  decide

theorem isLower_ascii_iff {c : Char} (ascii : c.toNat < 128) :
    IsLower c ↔ ¬ (65 ≤ c.toNat ∧ c.toNat ≤ 90) := by
  obtain ⟨rest, runs, later⟩ := lowerRuns_ascii
  constructor
  · intro lower capital
    have uncovered := lower.uncovered ⟨65, 90, 1, 32⟩ (runs ▸ List.mem_cons_self)
    rw [Bool.eq_false_iff, ne_eq, ShiftRun.covers_iff] at uncovered
    exact uncovered ⟨capital.1, capital.2, Nat.mod_one _⟩
  · intro small
    refine ⟨by omega, ?_⟩
    rw [runs]
    intro r mem
    rw [Bool.eq_false_iff, ne_eq, ShiftRun.covers_iff]
    rintro ⟨after, before, -⟩
    rcases List.mem_cons.mp mem with rfl | mem
    · exact small ⟨after, before⟩
    · have := later r mem
      omega

theorem isLower_toLower {c : Char} (ascii : c.toNat < 128) : IsLower c.toLower := by
  obtain ⟨rest, runs, -⟩ := lowerRuns_ascii
  have lowered := toLower_ascii c.toNat ascii
  rw [Char.ofNat_toNat] at lowered
  rw [lowered]
  split
  · next capital =>
    have covers : ShiftRun.covers ⟨65, 90, 1, 32⟩ c.toNat = true :=
      ShiftRun.covers_iff.mpr ⟨capital.1, capital.2, Nat.mod_one _⟩
    exact isLower_of_move (runs ▸ List.mem_cons_self) covers
  · next small => exact (isLower_ascii_iff ascii).mpr small

theorem toLower_of_isLower {c : Char} (ascii : c.toNat < 128) (lower : IsLower c) :
    c.toLower = c := by
  have lowered := toLower_ascii c.toNat ascii
  rwa [Char.ofNat_toNat, if_neg ((isLower_ascii_iff ascii).mp lower)] at lowered

/-- The lower-case form of a single character is in lower case, with one exception. -/
theorem isLower_lowerChar {c : Char} (undotted : c.toNat ≠ 0x130) : IsLower (lowerChar c) := by
  rw [lowerChar]
  split
  · next ascii => exact isLower_toLower ascii
  · cases found : lowerRuns.find? (·.covers c.toNat) with
    | some r =>
        have covers := List.find?_some found
        rw [ShiftRun.move?, found]
        exact isLower_of_move (List.mem_of_find?_eq_some found) covers
    | none =>
        rw [ShiftRun.move?, found]
        rw [List.find?_eq_none] at found
        exact ⟨undotted, fun r mem => Bool.eq_false_iff.mpr (found r mem)⟩

/-- A character in lower case stays what it is. -/
theorem lowerChar_of_isLower {c : Char} (lower : IsLower c) : lowerChar c = c := by
  rw [lowerChar]
  split
  · next ascii => exact toLower_of_isLower ascii lower
  · have none : lowerRuns.find? (·.covers c.toNat) = none := by
      rw [List.find?_eq_none]
      intro r mem
      rw [lower.uncovered r mem]
      exact Bool.false_ne_true
    rw [ShiftRun.move?, none]
    rfl

/-! ## Texts in lower case -/

/-- Every character of a lower-case form is in lower case. -/
theorem isLower_of_mem_lowerChars {c : Char} {before cs : List Char}
    (mem : c ∈ lowerChars before cs) : IsLower c := by
  obtain ⟨i, dot, final, sigma⟩ := isLower_special
  induction cs generalizing before with
  | nil => cases mem
  | cons first rest ih =>
      rw [lowerChars] at mem
      rcases List.mem_append.mp mem with here | later
      · split at here
        · rcases List.mem_cons.mp here with rfl | here
          · exact i
          · rw [List.mem_singleton.mp here]
            exact dot
        · next undotted =>
          split at here
          · split at here
            · rw [List.mem_singleton.mp here]
              exact final
            · rw [List.mem_singleton.mp here]
              exact sigma
          · rw [List.mem_singleton.mp here]
            exact isLower_lowerChar undotted
      · exact ih later

/-- A text of characters in lower case stays what it is. -/
theorem lowerChars_of_isLower {before cs : List Char} (lower : ∀ c ∈ cs, IsLower c) :
    lowerChars before cs = cs := by
  induction cs generalizing before with
  | nil => rfl
  | cons first rest ih =>
      obtain ⟨first_lower, rest_lower⟩ := List.forall_mem_cons.mp lower
      have plain : first.toNat ≠ 0x3A3 := by
        intro sigma
        have covered : lowerRuns.any (·.covers 0x3A3) = true := by decide +kernel
        obtain ⟨r, mem, covers⟩ := List.any_eq_true.mp covered
        rw [← sigma, first_lower.uncovered r mem] at covers
        cases covers
      rw [lowerChars, if_neg first_lower.undotted, if_neg plain, lowerChar_of_isLower first_lower,
        ih rest_lower]
      rfl

theorem lowerText_eq_iff {text : String} :
    lowerText text = text ↔ ∀ c ∈ text.toList, IsLower c := by
  rw [lowerText]
  constructor
  · intro same c mem
    rw [← same, String.toList_ofList] at mem
    exact isLower_of_mem_lowerChars mem
  · intro lower
    rw [lowerChars_of_isLower lower, String.ofList_toList]

/-- To lower-case a text twice is to do it once. -/
@[simp] theorem lowerText_lowerText (text : String) :
    lowerText (lowerText text) = lowerText text := by
  rw [lowerText_eq_iff]
  intro c mem
  rw [lowerText, String.toList_ofList] at mem
  exact isLower_of_mem_lowerChars mem

/-! ## Blank texts -/

/-- The blank characters as runs that move nowhere. -/
def blankRuns : List ShiftRun :=
  [⟨9, 13, 1, 0⟩, ⟨0x20, 0x20, 1, 0⟩, ⟨0x85, 0x85, 1, 0⟩, ⟨0xA0, 0xA0, 1, 0⟩,
    ⟨0x1680, 0x1680, 1, 0⟩, ⟨0x2000, 0x200A, 1, 0⟩, ⟨0x2028, 0x2029, 1, 0⟩,
    ⟨0x202F, 0x202F, 1, 0⟩, ⟨0x205F, 0x205F, 1, 0⟩, ⟨0x3000, 0x3000, 1, 0⟩]

theorem covers_of_isBlank {c : Char} (blank : isBlank c = true) :
    ∃ r ∈ blankRuns, r.covers c.toNat = true := by
  simp only [isBlank, Bool.or_eq_true, Bool.and_eq_true, decide_eq_true_eq, beq_iff_eq] at blank
  simp only [blankRuns, List.exists_mem_cons_iff, ShiftRun.covers_iff, Nat.mod_one, and_true]
  omega

/-- Runs move to where no character is blank. -/
theorem lowerRuns_filled :
    (lowerRuns.all fun r => r.staysValid && blankRuns.all r.misses) = true := by
  decide +kernel

theorem isBlank_of_toLower_ascii :
    ∀ n < 128, isBlank (Char.ofNat n).toLower = true → isBlank (Char.ofNat n) = true := by
  decide

/-- A character that is blank in lower case is blank. -/
theorem isBlank_of_lowerChar {c : Char} (blank : isBlank (lowerChar c) = true) :
    isBlank c = true := by
  rw [lowerChar] at blank
  split at blank
  · next ascii =>
    have small := isBlank_of_toLower_ascii c.toNat ascii
    rw [Char.ofNat_toNat] at small
    exact small blank
  · cases found : lowerRuns.find? (·.covers c.toNat) with
    | none =>
        rw [ShiftRun.move?, found] at blank
        exact blank
    | some r =>
        have covers := List.find?_some found
        have filled := List.all_eq_true.mp lowerRuns_filled r (List.mem_of_find?_eq_some found)
        rw [Bool.and_eq_true, List.all_eq_true] at filled
        obtain ⟨valid, misses⟩ := filled
        rw [ShiftRun.move?, found] at blank
        obtain ⟨s, mem, there⟩ := covers_of_isBlank blank
        have missed := ShiftRun.not_covers_of_misses valid (misses s mem) covers rfl
        rw [Option.map_some, Option.getD_some, ShiftRun.toNat_moved valid covers, missed] at there
        cases there

theorem isBlank_of_lowerChars {before cs : List Char}
    (blank : ∀ c ∈ lowerChars before cs, isBlank c = true) : ∀ c ∈ cs, isBlank c = true := by
  induction cs generalizing before with
  | nil => nofun
  | cons first rest ih =>
      rw [lowerChars, List.forall_mem_append] at blank
      obtain ⟨here, later⟩ := blank
      refine List.forall_mem_cons.mpr ⟨?_, ih later⟩
      -- the letters that have rules of their own do not become blank
      split at here
      · cases here 'i' List.mem_cons_self
      split at here
      · split at here
        · cases here '\u03C2' List.mem_cons_self
        · cases here '\u03C3' List.mem_cons_self
      · exact isBlank_of_lowerChar (here _ List.mem_cons_self)

/-- A text that is blank in lower case is blank. -/
theorem isBlankText_of_lowerText {text : String} (blank : isBlankText (lowerText text) = true) :
    isBlankText text = true := by
  rw [isBlankText, List.all_eq_true] at blank ⊢
  rw [lowerText, String.toList_ofList] at blank
  exact isBlank_of_lowerChars blank

end LoadHarness
