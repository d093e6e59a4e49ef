import Mathlib
import LoadHarness.Proofs.Binary64.Literal
import LoadHarness.Proofs.Binary64.Shortest

/-!
# Texts of numbers are read back

A decimal that is laid out without an exponent is read as a decimal of the same value, wherever its
point falls. So the text of a finite number is read as the number, with the sign of a zero.
-/

namespace LoadHarness

namespace Decimal

/-! ## Digits and zeros -/

theorem valueOf_concat (digits : List Char) (c : Char) :
    valueOf (digits ++ [c]) = valueOf digits * 10 + (c.toNat - '0'.toNat) := by
  rw [valueOf, List.foldl_append]
  rfl

@[simp] theorem valueOf_toDigits (n : Nat) : valueOf (Nat.toDigits 10 n) = n :=
  decimalValue_toDigits n

/-- Zeros at the front have no value. -/
@[simp] theorem valueOf_zeros_append (k : Nat) (digits : List Char) :
    valueOf (List.replicate k '0' ++ digits) = valueOf digits := by
  induction k with
  | zero => rfl
  | succ k ih => exact ih

/-- Each zero at the end makes the value ten times as large. -/
@[simp] theorem valueOf_append_zeros (digits : List Char) (k : Nat) :
    valueOf (digits ++ List.replicate k '0') = valueOf digits * 10 ^ k := by
  induction k with
  | zero => simp
  | succ k ih =>
      rw [List.replicate_succ', ← List.append_assoc, valueOf_concat, ih, pow_succ]
      exact Nat.mul_assoc _ _ _

theorem isDigit_of_mem_zeros {k : Nat} {c : Char} (mem : c ∈ List.replicate k '0') :
    c.isDigit = true :=
  (List.mem_replicate.mp mem).2 ▸ rfl

end Decimal

namespace Binary64

/-! ## Layout without an exponent -/

theorem toList_positional (digits : List Char) (point : Int) :
    (positional false (String.ofList digits) point).toList =
      if point ≤ 0 then '0' :: '.' :: (List.replicate (-point).toNat '0' ++ digits)
      else if digits.length ≤ point.toNat then
        digits ++ List.replicate (point.toNat - digits.length) '0'
      else digits.take point.toNat ++ '.' :: digits.drop point.toNat := by
  simp only [positional, String.length_ofList, String.toList_ofList]
  split
  · simp
  split
  · simp
  · simp

/-- Digits with a point among them are read as a decimal with the exponent that puts it there. -/
theorem ofText?_positional {n : Nat} (exponent : Int) :
    ∃ c rest read,
      (positional false (Nat.repr n) (exponent + (Nat.repr n).length)).toList = c :: rest ∧
        c.isDigit = true ∧ Decimal.ofText? (c :: rest) = some read ∧
        read.value = (⟨n, exponent⟩ : Decimal).value := by
  rw [Nat.repr_eq_ofList_toDigits, String.length_ofList, toList_positional]
  have value := Decimal.valueOf_toDigits n
  have all : ∀ c ∈ Nat.toDigits 10 n, c.isDigit = true := fun _ => isDigit_of_mem_digits
  have some_digit : 0 < (Nat.toDigits 10 n).length := List.length_pos_iff.mpr Nat.toDigits_ne_nil
  generalize Nat.toDigits 10 n = ds at value all some_digit ⊢
  split
  · next front =>
      have zeros := Decimal.valueOf_zeros_append (-(exponent + ds.length)).toNat ds
      have others : ∀ c ∈ List.replicate (-(exponent + ds.length)).toNat '0' ++ ds,
          c.isDigit = true :=
        List.forall_mem_append.mpr ⟨fun _ => Decimal.isDigit_of_mem_zeros, all⟩
      have read := Decimal.ofText?_point (List.cons_ne_nil '0' []) (by simp) others
      refine ⟨'0', _, _, rfl, rfl, read, congrArg Decimal.value ?_⟩
      rw [Decimal.mk.injEq, List.length_append, List.length_replicate]
      exact ⟨(Decimal.valueOf_zeros_append 1 _).trans (zeros.trans value), by omega⟩
  split
  · next behind =>
      obtain ⟨k, rfl⟩ : ∃ k : Nat, exponent = k := ⟨exponent.toNat, by omega⟩
      have padding : ((k : Int) + ds.length).toNat - ds.length = k := by omega
      obtain ⟨c, rest, first⟩ := List.exists_cons_of_length_pos some_digit
      have digits : ∀ c ∈ ds ++ List.replicate k '0', c.isDigit = true :=
        List.forall_mem_append.mpr ⟨all, fun _ => Decimal.isDigit_of_mem_zeros⟩
      have read := Decimal.ofText?_digits (by simp [first]) digits
      rw [padding]
      refine ⟨c, rest ++ List.replicate k '0', _, by rw [first, List.cons_append],
        all c (first ▸ List.mem_cons_self), by rw [← List.cons_append, ← first, read], ?_⟩
      rw [Decimal.valueOf_append_zeros, value, Decimal.value, Decimal.value]
      simp
  · next among =>
      generalize point : (exponent + ds.length).toNat = k at among
      obtain ⟨c, rest, first⟩ := List.exists_cons_of_length_pos (l := ds.take k) (by
        rw [List.length_take]
        omega)
      have before : ∀ c ∈ ds.take k, c.isDigit = true := fun c mem =>
        all c (List.mem_of_mem_take mem)
      have after : ∀ c ∈ ds.drop k, c.isDigit = true := fun c mem =>
        all c (List.mem_of_mem_drop mem)
      have read := Decimal.ofText?_point (by simp [first]) before after
      rw [List.take_append_drop, value] at read
      rw [first, List.cons_append] at read ⊢
      refine ⟨c, _, _, rfl, all c (List.mem_of_mem_take (first ▸ List.mem_cons_self)), read, ?_⟩
      congr 2
      rw [List.length_drop]
      omega

/-- A decimal in the layout without exponents begins with a digit and is read as a decimal of the
same value. -/
theorem ofText?_layOut (d : Decimal) :
    ∃ c rest read, (layOut .plain d).toList = c :: rest ∧ c.isDigit = true ∧
      Decimal.ofText? (c :: rest) = some read ∧ read.value = d.value := by
  rcases eq_or_ne d.digits 0 with zero | nonzero
  · have read : Decimal.ofText? ['0'] = some ⟨0, 0⟩ := by decide
    refine ⟨'0', [], ⟨0, 0⟩, ?_, rfl, read, ?_⟩
    · simp [layOut, Layout.plain, zero]
    · simp [Decimal.value, zero]
  · have plain : layOut .plain d =
        positional false (Nat.repr d.digits) (d.exponent + (Nat.repr d.digits).length) := by
      simp [layOut, Layout.plain, nonzero]
    rw [plain]
    exact ofText?_positional d.exponent

/-- The text of a finite number is read as the number. -/
theorem ofChars?_toText {x : Binary64} (finite : x.isFinite = true) :
    ofChars? x.toText.toList = some x := by
  cases x with
  | nan => cases finite
  | infinite negative => cases finite
  | finite negative s onGrid =>
      obtain ⟨c, rest, d, laidOut, digit, read, value⟩ :=
        ofText?_layOut (if s = 0 then ⟨0, 0⟩ else shortest s)
      have text : (toText (.finite negative s onGrid)).toList =
          (if negative then ['-'] else []) ++ c :: rest := by
        rw [toText, format, String.toList_append, laidOut]
        cases negative <;> rfl
      rw [text, ofChars?_of_digit digit, read, Option.map_some]
      congr 1
      rcases Nat.eq_zero_or_pos s with rfl | positive
      · have none : d.digits = 0 := by
          simpa [Decimal.value, zpow_ne_zero] using value
        rw [ofDecimal, if_pos none]
        rfl
      · rw [if_neg positive.ne'] at value
        refine ofDecimal_of_contains onGrid positive ?_ negative
        rw [Interval.contains_iff_holds, value, ← Interval.contains_iff_holds]
        exact contains_shortest onGrid.2 positive

/-- What lies between finite numbers is finite. -/
theorem isFinite_of_between {low high x : Binary64} (first : low.isFinite = true)
    (last : high.isFinite = true) (above : low.le x = true) (below : x.le high = true) :
    x.isFinite = true := by
  cases low with
  | nan => cases first
  | infinite negative => cases first
  | finite negative m bottom =>
      cases high with
      | nan => cases last
      | infinite negative => cases last
      | finite sign n top =>
          cases x with
          | finite => rfl
          | nan => cases below
          | infinite beyond =>
              have small := bottom.1
              have large := top.1
              have above := of_decide_eq_true above
              have below := of_decide_eq_true below
              generalize ceiling = limit at small large above below
              cases beyond with
              | false =>
                  rw [if_neg Bool.false_ne_true] at below
                  split at below <;> omega
              | true =>
                  rw [if_pos rfl] at above
                  split at above <;> omega

end Binary64

end LoadHarness
