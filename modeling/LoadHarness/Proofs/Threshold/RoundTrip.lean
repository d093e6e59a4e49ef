import Mathlib
import LoadHarness.Proofs.Binary64.RoundTrip
import LoadHarness.Proofs.Threshold.Grammar

/-!
# Texts of expressions are read back

An expression that was read from some text is written with its numbers in the shortest digits. The
parts of that text are the texts of the aggregation, the comparison and the bound, so it is read as
the same expression: with the sign of a zero, and with numbers of any size.
-/

namespace LoadHarness

/-- The numbers between which percentiles are asked for are finite. -/
theorem Binary64.isFinite_hundred : (Binary64.ofNat 100).isFinite = true := by decide +kernel

namespace Aggregation.Written

variable {cs : List Char} {a : Aggregation}

/-- An aggregation that is written somehow is written as its text. -/
theorem toText (written : Written cs a) : Written a.toText.toList a := by
  cases written with
  | average => exact .average
  | minimum => exact .minimum
  | maximum => exact .maximum
  | median => exact .median
  | rate => exact .rate
  | count => exact .count
  | @percentile number p read low high =>
      have finite := Binary64.isFinite_of_between rfl Binary64.isFinite_hundred low high
      have text : (Aggregation.percentile p).toText.toList =
          'p' :: '(' :: p.toText.toList ++ [')'] := by
        simp [Aggregation.toText]
      rw [text]
      exact .percentile (Binary64.ofChars?_toText finite) low high

end Aggregation.Written

namespace Expression

variable {whole left right : List Char} {e : Expression}

/-- An expression with parts has the texts of its aggregation, comparison and bound as the parts
of its own text. -/
theorem Parts.toText (parts : Parts whole left right e) :
    Parts e.toText.toList e.aggregation.toText.toList e.bound.toText.toList e where
  whole := by simp [Expression.toText]
  aggregation := parts.aggregation.toText
  bound := Binary64.ofChars?_toText parts.finite
  finite := parts.finite

/-- The text of an expression that was read from some text is read as this expression, and its
parts are the texts of the aggregation, the comparison and the bound. What is read from it has
that text again. -/
theorem toText_of_read {text : String} (read : ofText? text = .ok e) :
    Parts (compact e.toText) e.aggregation.toText.toList e.bound.toText.toList e ∧
      ofText? e.toText = .ok e ∧
      ∀ e', ofText? e.toText = .ok e' →
        e'.aggregation = e.aggregation ∧ e'.comparison = e.comparison ∧ e'.bound = e.bound ∧
          e'.toText = e.toText := by
  obtain ⟨left, right, parts⟩ := Parts.of_ofCompact? compact_blankless read
  have compact : compact e.toText = e.toText.toList :=
    List.filter_eq_self.mpr fun c mem => by rw [parts.toText.blankless c mem]; rfl
  have again : ofText? e.toText = .ok e :=
    parts.toText.ofCompact?_eq ▸ congrArg ofCompact? compact
  refine ⟨compact ▸ parts.toText, again, ?_⟩
  intro e' other
  cases again.symm.trans other
  exact ⟨rfl, rfl, rfl, rfl⟩

/-- A zero keeps its sign, and a number loses what it was written with beyond its digits. -/
theorem toText_of_read_spaced :
    ∃ e, ofText? " p( 9 9.90 ) != -0e7" = .ok e ∧ e.toText = "p(99.9)!=-0" ∧
      ofText? "p(99.9)!=-0" = .ok e := by
  have written : (ofText? " p( 9 9.90 ) != -0e7").toOption.map toText = some "p(99.9)!=-0" := by
    decide +kernel
  cases read : ofText? " p( 9 9.90 ) != -0e7" with
  | error cause =>
      rw [read] at written
      cases written
  | ok e =>
      rw [read] at written
      have text := Option.some.inj written
      obtain ⟨-, again, -⟩ := toText_of_read read
      exact ⟨e, rfl, text, text ▸ again⟩

end Expression

end LoadHarness
