import Mathlib
import LoadHarness.Proofs.Binary64.Literal
import LoadHarness.Threshold.Table

/-!
# The grammar of expressions

Without its blanks, an expression is an aggregation, the symbol of a comparison and a finite
number. Neither an aggregation nor a number holds a character that starts a symbol, so the parts
are found at the first such character, and there is one way to take an expression apart. A text
without such parts is refused, whatever it is read for, with the text as it was given.
-/

namespace LoadHarness

section

variable {c : Char}

/-- No literal holds the start of a comparison. -/
theorem startsComparison_of_isLiteral (literal : Decimal.isLiteral c = true) :
    Expression.startsComparison c = false := by
  cases starts : Expression.startsComparison c with
  | false => rfl
  | true =>
      simp only [Expression.startsComparison, Bool.or_eq_true, beq_iff_eq] at starts
      rcases starts with ((rfl | rfl) | rfl) | rfl <;> cases literal

/-- No literal holds a blank. -/
theorem isBlank_of_isLiteral (literal : Decimal.isLiteral c = true) : isBlank c = false := by
  have visible : 43 ≤ c.toNat ∧ c.toNat < 128 := by
    simp only [Decimal.isLiteral, Char.isAlphanum, Char.isAlpha, Char.isUpper, Char.isLower,
      Char.isDigit, Bool.or_eq_true, Bool.and_eq_true, decide_eq_true_eq, beq_iff_eq,
      UInt32.le_iff_toNat_le, ge_iff_le] at literal
    have code : c.toNat = c.val.toNat := rfl
    have digits : '0'.val.toNat = 48 ∧ '9'.val.toNat = 57 := ⟨rfl, rfl⟩
    have upper : 'A'.val.toNat = 65 ∧ 'Z'.val.toNat = 90 := ⟨rfl, rfl⟩
    have lower : 'a'.val.toNat = 97 ∧ 'z'.val.toNat = 122 := ⟨rfl, rfl⟩
    rcases literal with ((letters | rfl) | rfl) | rfl
    · omega
    all_goals decide
  simp only [isBlank, Bool.or_eq_false_iff, Bool.and_eq_false_iff, decide_eq_false_iff_not,
    beq_eq_false_iff_ne]
  omega

end

/-- A text without blanks has none at its ends. -/
theorem trimChars_of_blankless {cs : List Char} (blankless : ∀ c ∈ cs, isBlank c = false) :
    trimChars cs = cs := by
  have none {cs : List Char} (blankless : ∀ c ∈ cs, isBlank c = false) :
      cs.dropWhile isBlank = cs := by
    cases cs with
    | nil => rfl
    | cons c rest => rw [List.dropWhile_cons, blankless c List.mem_cons_self, if_neg nofun]
  rw [trimChars, none blankless, none fun c mem => blankless c (List.mem_reverse.mp mem),
    List.reverse_reverse]

/-! ## Symbols -/

namespace Comparison

theorem symbol_start (comparison : Comparison) :
    ∃ c rest, comparison.symbol.toList = c :: rest ∧ Expression.startsComparison c = true := by
  cases comparison <;> exact ⟨_, _, rfl, rfl⟩

/-- A symbol is found in front of what does not go on with an equality sign. -/
theorem split?_symbol (comparison : Comparison) {right : List Char}
    (ends : right.head? ≠ some '=') :
    split? (comparison.symbol.toList ++ right) = some (comparison, right) := by
  cases comparison with
  | less =>
      cases right with
      | nil => rfl
      | cons c rest =>
          have other : c ≠ '=' := fun same => ends (congrArg some same)
          simp [symbol, split?, other]
  | greater =>
      cases right with
      | nil => rfl
      | cons c rest =>
          have other : c ≠ '=' := fun same => ends (congrArg some same)
          simp [symbol, split?, other]
  | atMost => rfl
  | atLeast => rfl
  | equal => rfl
  | unequal => rfl

theorem eq_of_split? {rest right : List Char} {comparison : Comparison}
    (found : split? rest = some (comparison, right)) :
    rest = comparison.symbol.toList ++ right := by
  unfold split? at found
  split at found <;> cases found <;> rfl

end Comparison

/-! ## Aggregations -/

namespace Aggregation

/-- The texts of the aggregations: a word, or a number between zero and a hundred in
parentheses. -/
inductive Written : List Char → Aggregation → Prop where
  | average : Written ['a', 'v', 'g'] average
  | minimum : Written ['m', 'i', 'n'] minimum
  | maximum : Written ['m', 'a', 'x'] maximum
  | median : Written ['m', 'e', 'd'] median
  | rate : Written ['r', 'a', 't', 'e'] rate
  | count : Written ['c', 'o', 'u', 'n', 't'] count
  | percentile {number : List Char} {p : Binary64} (read : Binary64.ofChars? number = some p)
      (low : Binary64.zero.le p = true) (high : p.le (.ofNat 100) = true) :
      Written ('p' :: '(' :: number ++ [')']) (percentile p)

theorem percentileInside?_eq_some_iff {cs inside : List Char} :
    percentileInside? cs = some inside ↔ cs = 'p' :: '(' :: inside ++ [')'] := by
  constructor
  · intro found
    unfold percentileInside? at found
    split at found
    · next rest =>
        split at found
        · next last =>
            cases found
            have whole : rest.dropLast ++ [')'] = rest := List.dropLast_append_getLast? _ last
            rw [List.cons_append, List.cons_append, whole]
        · cases found
    · cases found
  · rintro rfl
    simp [percentileInside?]

namespace Written

variable {cs : List Char} {a : Aggregation}

/-- An aggregation is made of parentheses and of what literals are made of. -/
theorem characters (written : Written cs a) :
    ∀ c ∈ cs, c = '(' ∨ c = ')' ∨ Decimal.isLiteral c = true := by
  cases written with
  | percentile read low high =>
      refine List.forall_mem_cons.mpr ⟨.inr (.inr rfl), List.forall_mem_cons.mpr ⟨.inl rfl, ?_⟩⟩
      refine List.forall_mem_append.mpr ⟨fun c mem => ?_, by simp⟩
      exact .inr (.inr (Binary64.isLiteral_of_ofChars? read c mem))
  | _ => simp [Decimal.isLiteral, Char.isAlphanum, Char.isAlpha, Char.isLower]

theorem apart (written : Written cs a) :
    ∀ c ∈ cs, Expression.startsComparison c = false := fun c mem => by
  rcases written.characters c mem with rfl | rfl | literal
  · rfl
  · rfl
  · exact startsComparison_of_isLiteral literal

theorem blankless (written : Written cs a) : ∀ c ∈ cs, isBlank c = false := fun c mem => by
  rcases written.characters c mem with rfl | rfl | literal
  · rfl
  · rfl
  · exact isBlank_of_isLiteral literal

theorem ofChars?_eq (written : Written cs a) : ofChars? cs = .ok a := by
  cases written with
  | @percentile number p read low high =>
      have inside := percentileInside?_eq_some_iff.mpr (rfl : 'p' :: '(' :: number ++ [')'] = _)
      have trimmed : trimChars number = number := trimChars_of_blankless fun c mem =>
        isBlank_of_isLiteral (Binary64.isLiteral_of_ofChars? read c mem)
      have range : isPercentage p = true := by rw [isPercentage, low, high]; rfl
      simp only [ofChars?, inside, trimmed, read, range, if_true]
      simp
  | _ => rfl

/-- What is read as an aggregation is written as one. -/
theorem of_ofChars? (blankless : ∀ c ∈ cs, isBlank c = false) (read : ofChars? cs = .ok a) :
    Written cs a := by
  unfold ofChars? at read
  split at read
  · next word => cases read; exact word ▸ .average
  split at read
  · next word => cases read; exact word ▸ .minimum
  split at read
  · next word => cases read; exact word ▸ .maximum
  split at read
  · next word => cases read; exact word ▸ .median
  split at read
  · next word => cases read; exact word ▸ .rate
  split at read
  · next word => cases read; exact word ▸ .count
  split at read
  · cases read
  · next inside found =>
      obtain rfl := percentileInside?_eq_some_iff.mp found
      have trimmed : trimChars inside = inside := trimChars_of_blankless fun c mem =>
        blankless c (List.mem_append_left _ (List.mem_cons_of_mem _ (List.mem_cons_of_mem _ mem)))
      rw [trimmed] at read
      split at read
      · cases read
      · next p number =>
          split at read
          · next range =>
              cases read
              obtain ⟨low, high⟩ := Bool.and_eq_true_iff.mp range
              exact .percentile number low high
          · cases read

end Written

end Aggregation

/-! ## Expressions -/

namespace Expression

/-- A text without its blanks. -/
def compact (text : String) : List Char := text.toList.filter fun c => !isBlank c

theorem compact_blankless {text : String} : ∀ c ∈ compact text, isBlank c = false := fun c mem => by
  simpa using (List.mem_filter.mp mem).2

/-- The text of an aggregation, the symbol of a comparison and the text of a finite number make up
the whole. -/
structure Parts (whole left right : List Char) (e : Expression) : Prop where
  whole : whole = left ++ e.comparison.symbol.toList ++ right
  aggregation : Aggregation.Written left e.aggregation
  bound : Binary64.ofChars? right = some e.bound
  finite : e.bound.isFinite = true

namespace Parts

variable {whole left right : List Char} {e : Expression}

/-- The parts meet at the first character that starts a comparison. -/
theorem span_eq (parts : Parts whole left right e) :
    whole.takeWhile (fun c => !startsComparison c) = left ∧
      whole.dropWhile (fun c => !startsComparison c) = e.comparison.symbol.toList ++ right := by
  obtain ⟨c, others, symbol, starts⟩ := e.comparison.symbol_start
  have span : (left ++ (e.comparison.symbol.toList ++ right)).span
      (fun c => !startsComparison c) = (left, e.comparison.symbol.toList ++ right) := by
    refine span_append (fun c mem => by rw [parts.aggregation.apart c mem]; rfl) ?_
    rw [symbol]
    intro d head
    cases head
    rw [starts]
    rfl
  rw [← List.append_assoc, ← parts.whole, List.span_eq_takeWhile_dropWhile] at span
  exact Prod.mk.inj span

/-- There are no blanks in the parts. -/
theorem blankless (parts : Parts whole left right e) : ∀ c ∈ whole, isBlank c = false := by
  have symbol : ∀ c ∈ e.comparison.symbol.toList, isBlank c = false := by
    cases e.comparison <;> simp [Comparison.symbol, isBlank]
  rw [parts.whole, List.append_assoc]
  refine List.forall_mem_append.mpr ⟨parts.aggregation.blankless, ?_⟩
  exact List.forall_mem_append.mpr ⟨symbol, fun c mem =>
    isBlank_of_isLiteral (Binary64.isLiteral_of_ofChars? parts.bound c mem)⟩

theorem ofCompact?_eq (parts : Parts whole left right e) : ofCompact? whole = .ok e := by
  have ends : right.head? ≠ some '=' := fun head => by
    have literal := Binary64.isLiteral_of_ofChars? parts.bound '=' (List.mem_of_mem_head? head)
    cases literal
  have some_symbol : (e.comparison.symbol.toList ++ right).isEmpty = false := by
    obtain ⟨c, others, symbol, -⟩ := e.comparison.symbol_start
    rw [symbol]
    rfl
  have bound : bound? right = some e.bound := by
    rw [bound?, parts.bound, Option.filter_some, if_pos parts.finite]
  simp only [ofCompact?, parts.span_eq, some_symbol, Bool.false_eq_true, if_false,
    Comparison.split?_symbol _ ends, parts.aggregation.ofChars?_eq, bound]

/-- What is read as an expression has its parts. -/
theorem of_ofCompact? (blankless : ∀ c ∈ whole, isBlank c = false)
    (read : ofCompact? whole = .ok e) : ∃ left right, Parts whole left right e := by
  have cut := List.takeWhile_append_dropWhile (p := fun c => !startsComparison c) (l := whole)
  simp only [ofCompact?] at read
  split at read
  · cases read
  split at read
  · cases read
  · next comparison right found =>
      split at read
      · cases read
      · next aggregation written =>
          split at read
          · cases read
          · next bound number =>
              cases read
              obtain ⟨read, finite⟩ := Option.filter_eq_some_iff.mp number
              refine ⟨whole.takeWhile fun c => !startsComparison c, right, ?_, ?_, read, finite⟩
              · rw [List.append_assoc, ← Comparison.eq_of_split? found, cut]
              · exact .of_ofChars?
                  (fun c mem => blankless c (List.takeWhile_subset _ mem)) written

/-- There is one way to take a text apart. -/
theorem unique (parts : Parts whole left right e) {left' right' : List Char} {e' : Expression}
    (parts' : Parts whole left' right' e') : left = left' ∧ right = right' ∧ e = e' := by
  have same : e = e' := Except.ok.inj (parts.ofCompact?_eq.symm.trans parts'.ofCompact?_eq)
  subst same
  refine ⟨parts.span_eq.1.symm.trans parts'.span_eq.1, ?_, rfl⟩
  exact List.append_cancel_left (parts.span_eq.2.symm.trans parts'.span_eq.2)

end Parts

/-- A text is read exactly if it has the parts of an expression, and as the expression of these
parts. There is no other way to take it apart. A text without parts is refused as it was given,
whatever series it is for. -/
theorem read_iff_parts (text : String) :
    (∀ e, ofText? text = .ok e ↔ ∃ left right, Parts (compact text) left right e) ∧
      (∀ {left right : List Char} {e : Expression} {left' right' : List Char} {e' : Expression},
        Parts (compact text) left right e → Parts (compact text) left' right' e' →
          left = left' ∧ right = right' ∧ e = e') ∧
      ((¬ ∃ left right e, Parts (compact text) left right e) ↔
        ∃ cause, ofText? text = .error cause ∧ ∀ series kind,
          Threshold.ofSource? series kind text = .error (.malformed text cause)) := by
  have reads (e : Expression) :
      ofText? text = .ok e ↔ ∃ left right, Parts (compact text) left right e :=
    ⟨Parts.of_ofCompact? compact_blankless, fun ⟨_, _, parts⟩ => parts.ofCompact?_eq⟩
  refine ⟨reads, fun parts others => parts.unique others, ?_⟩
  constructor
  · intro apart
    cases read : ofText? text with
    | ok e =>
        obtain ⟨left, right, parts⟩ := (reads e).mp read
        exact absurd ⟨left, right, e, parts⟩ apart
    | error cause => exact ⟨cause, rfl, fun series kind => by rw [Threshold.ofSource?, read]⟩
  · rintro ⟨cause, refused, -⟩ ⟨left, right, e, parts⟩
    cases refused.symm.trans ((reads e).mpr ⟨left, right, parts⟩)

/-- Blanks inside a number and inside a symbol have no meaning either; two symbols are not one. -/
theorem read_iff_parts_spaced :
    (∃ e, ofText? " p( 9 5 ) < = -1 e3" = .ok e ∧ e.comparison = .atMost ∧
      ∀ left right e', Parts (compact " p( 9 5 ) < = -1 e3") left right e' →
        left = ['p', '(', '9', '5', ')'] ∧ right = ['-', '1', 'e', '3'] ∧ e' = e) ∧
      ∃ cause, Threshold.ofSource? "checks" .rate "rate=<1" =
        .error (.malformed "rate=<1" cause) := by
  obtain ⟨reads, unique, -⟩ := read_iff_parts " p( 9 5 ) < = -1 e3"
  obtain ⟨others, -, refuses⟩ := read_iff_parts "rate=<1"
  obtain ⟨p, number, low, high⟩ : ∃ p, Binary64.ofChars? ['9', '5'] = some p ∧
      Binary64.zero.le p = true ∧ p.le (.ofNat 100) = true :=
    ⟨.ofDecimal false 95 0, rfl, by decide +kernel⟩
  obtain ⟨b, bound, finite⟩ : ∃ b, Binary64.ofChars? ['-', '1', 'e', '3'] = some b ∧
      b.isFinite = true := by
    have decimal : Decimal.ofText? ['1', 'e', '3'] = some ⟨1, 3⟩ := by decide
    refine ⟨.ofDecimal true 1 3, ?_, by decide +kernel⟩
    exact (Binary64.ofChars?_of_digit rfl true ['e', '3']).trans (by rw [decimal, Option.map_some])
  have whole : compact " p( 9 5 ) < = -1 e3" =
      ['p', '(', '9', '5', ')'] ++ Comparison.atMost.symbol.toList ++ ['-', '1', 'e', '3'] := by
    decide
  have parts : Parts (compact " p( 9 5 ) < = -1 e3") ['p', '(', '9', '5', ')']
      ['-', '1', 'e', '3'] ⟨.percentile p, .atMost, b⟩ :=
    ⟨whole, .percentile number low high, bound, finite⟩
  have mixed : ¬ ∃ left right e, Parts (compact "rate=<1") left right e := by
    rintro ⟨left, right, e, parts⟩
    have none : (ofText? "rate=<1").toBool = false := by decide +kernel
    rw [(others e).mpr ⟨left, right, parts⟩] at none
    cases none
  obtain ⟨cause, -, refused⟩ := refuses.mp mixed
  exact ⟨⟨_, (reads _).mpr ⟨_, _, parts⟩, rfl, fun _ _ _ others => unique others parts⟩, cause,
    refused _ _⟩

end Expression

end LoadHarness
