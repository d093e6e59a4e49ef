import Mathlib
import LoadHarness.Proofs.Text.Digits

/-!
# Literals of numbers

A literal is made of letters, digits, signs and points, so that nothing which separates parts of an
expression stands in one. A run of digits, with or without a point in it, is read as its digits with
the exponent that the places after the point make.
-/

namespace LoadHarness

namespace Decimal

/-- The characters that literals are made of. -/
def isLiteral (c : Char) : Bool := c.isAlphanum || c == '+' || c == '-' || c == '.'

theorem isLiteral_of_isDigit {c : Char} (digit : c.isDigit = true) : isLiteral c = true := by
  simp [isLiteral, Char.isAlphanum, digit]

theorem isLiteral_of_isAlpha {c : Char} (letter : c.isAlpha = true) : isLiteral c = true := by
  simp [isLiteral, Char.isAlphanum, letter]

/-- No digit is a letter. -/
theorem isAlpha_of_isDigit {c : Char} (digit : c.isDigit = true) : c.isAlpha = false := by
  simp only [Char.isAlpha, Char.isUpper, Char.isLower, Char.isDigit, Bool.or_eq_false_iff,
    Bool.and_eq_true, Bool.and_eq_false_iff, decide_eq_true_eq, decide_eq_false_iff_not,
    UInt32.le_iff_toNat_le, ge_iff_le] at digit ⊢
  have nine : '9'.val.toNat = 57 := rfl
  have upper : 'A'.val.toNat = 65 := rfl
  have lower : 'a'.val.toNat = 97 := rfl
  omega

/-! ## The parts of a literal -/

/-- A sign is split off in front of what is a literal. -/
theorem isLiteral_of_splitSign {cs : List Char}
    (body : ∀ c ∈ (splitSign cs).2, isLiteral c = true) : ∀ c ∈ cs, isLiteral c = true := by
  unfold splitSign at body
  split at body
  · exact List.forall_mem_cons.mpr ⟨rfl, body⟩
  · exact List.forall_mem_cons.mpr ⟨rfl, body⟩
  · exact body

theorem isLiteral_of_exponentOf? {cs : List Char} {e : Int} (read : exponentOf? cs = some e) :
    ∀ c ∈ cs, isLiteral c = true := by
  cases cs with
  | nil => nofun
  | cons c rest =>
      simp only [exponentOf?] at read
      split at read
      · next letter =>
          have first : isLiteral c = true := by
            rcases Bool.or_eq_true_iff.mp letter with lower | upper
            · rw [eq_of_beq lower]
              rfl
            · rw [eq_of_beq upper]
              rfl
          split at read
          · cases read
          · next digits =>
              have all : ∀ c ∈ (splitSign rest).2, isLiteral c = true := fun c mem => by
                simp only [Bool.or_eq_true, not_or, Bool.not_eq_true', Bool.not_eq_false] at digits
                exact isLiteral_of_isDigit (List.all_eq_true.mp digits.2 c mem)
              exact List.forall_mem_cons.mpr ⟨first, isLiteral_of_splitSign all⟩
      · cases read

/-- A text is a literal if what follows its first run of digits is one. -/
theorem isLiteral_of_dropWhile {cs : List Char}
    (rest : ∀ c ∈ cs.dropWhile Char.isDigit, isLiteral c = true) :
    ∀ c ∈ cs, isLiteral c = true := by
  rw [← List.takeWhile_append_dropWhile (p := Char.isDigit) (l := cs)]
  exact List.forall_mem_append.mpr
    ⟨fun c mem => isLiteral_of_isDigit (List.mem_takeWhile_imp mem), rest⟩

theorem isLiteral_of_ofText? {cs : List Char} {d : Decimal} (read : ofText? cs = some d) :
    ∀ c ∈ cs, isLiteral c = true := by
  refine isLiteral_of_dropWhile ?_
  simp only [ofText?] at read
  split at read
  · next tail point =>
      rw [point]
      refine List.forall_mem_cons.mpr ⟨rfl, isLiteral_of_dropWhile ?_⟩
      split at read
      · cases read
      · obtain ⟨e, exponent, -⟩ := Option.map_eq_some_iff.mp read
        exact isLiteral_of_exponentOf? exponent
  · split at read
    · cases read
    · obtain ⟨e, exponent, -⟩ := Option.map_eq_some_iff.mp read
      exact isLiteral_of_exponentOf? exponent

/-! ## Literals without an exponent -/

section

variable {whole places : List Char}

theorem ofText?_digits (some_digit : whole ≠ []) (digits : ∀ c ∈ whole, c.isDigit = true) :
    ofText? whole = some ⟨valueOf whole, 0⟩ := by
  have run := span_all digits
  rw [List.span_eq_takeWhile_dropWhile, Prod.mk.injEq] at run
  simp [ofText?, run.1, run.2, some_digit, exponentOf?]

theorem ofText?_point (some_digit : whole ≠ []) (digits : ∀ c ∈ whole, c.isDigit = true)
    (others : ∀ c ∈ places, c.isDigit = true) :
    ofText? (whole ++ '.' :: places) = some ⟨valueOf (whole ++ places), -places.length⟩ := by
  have stop : ∀ c ∈ ('.' :: places).head?, c.isDigit = false := by simp
  have run := span_append digits stop
  have last := span_all others
  rw [List.span_eq_takeWhile_dropWhile, Prod.mk.injEq] at run last
  simp [ofText?, run.1, run.2, last.1, last.2, some_digit, exponentOf?]

end

end Decimal

namespace Binary64

/-- A number is read from a literal only. -/
theorem isLiteral_of_ofChars? {cs : List Char} {x : Binary64} (read : ofChars? cs = some x) :
    ∀ c ∈ cs, Decimal.isLiteral c = true := by
  refine Decimal.isLiteral_of_splitSign ?_
  simp only [ofChars?] at read
  have word {text : String} (letters : text.toList.all Char.isAlpha = true)
      (same : String.ofList ((Decimal.splitSign cs).2.map Char.toLower) = text) :
      ∀ c ∈ (Decimal.splitSign cs).2, Decimal.isLiteral c = true := by
    intro c mem
    subst same
    rw [String.toList_ofList, List.all_map, List.all_eq_true] at letters
    have letter := letters c mem
    rw [Function.comp, Char.isAlpha_toLower_eq_isAlpha] at letter
    exact Decimal.isLiteral_of_isAlpha letter
  split at read
  · next infinite =>
      rcases Bool.or_eq_true_iff.mp infinite with short | long
      · exact word (by decide) (eq_of_beq short)
      · exact word (by decide) (eq_of_beq long)
  split at read
  · next unordered => exact word (by decide) (eq_of_beq unordered)
  · obtain ⟨d, body, -⟩ := Option.map_eq_some_iff.mp read
    exact Decimal.isLiteral_of_ofText? body

/-- What begins with a digit is read as a decimal. -/
theorem ofChars?_of_digit {c : Char} (digit : c.isDigit = true) (minus : Bool)
    (rest : List Char) :
    ofChars? ((if minus then ['-'] else []) ++ c :: rest) =
      (Decimal.ofText? (c :: rest)).map fun d => ofDecimal minus d.digits d.exponent := by
  have sign : Decimal.splitSign ((if minus then ['-'] else []) ++ c :: rest) =
      (minus, c :: rest) := by
    cases minus with
    | true => rfl
    | false =>
        simp only [Bool.false_eq_true, if_false, List.nil_append]
        unfold Decimal.splitSign
        split
        · next same =>
            cases same
            cases digit
        · next same =>
            cases same
            cases digit
        · rfl
  have apart (text : String) (letter : text.toList.head?.any Char.isAlpha = true) :
      (String.ofList ((c :: rest).map Char.toLower) == text) = false := by
    refine beq_eq_false_iff_ne.mpr fun same => ?_
    subst same
    rw [String.toList_ofList, List.map_cons, List.head?_cons, Option.any_some,
      Char.isAlpha_toLower_eq_isAlpha, Decimal.isAlpha_of_isDigit digit] at letter
    cases letter
  simp only [ofChars?, sign]
  simp only [apart "inf" (by decide), apart "infinity" (by decide), apart "nan" (by decide),
    Bool.or_false, Bool.false_eq_true, if_false]

end Binary64

end LoadHarness
