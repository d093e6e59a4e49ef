import Mathlib
import LoadHarness.Proofs.Binary64.Rounding

/-!
# Rounding errors

A quotient that is not too small is changed by rounding by at most one part in `2 ^ 53`. The
errors of one rounding after the other add up, so what comes of a few operations is known up to as
many grains.
-/

namespace LoadHarness

namespace Binary64

/-- A quotient of at least `2 ^ 52` least steps is changed by at most one part in `2 ^ 53`. -/
theorem roundSteps_mul_bounds {n d : Nat} (positive : 0 < d) (normal : 2 ^ 52 * d ≤ n) :
    2 ^ precision * (roundSteps n d * d) ≤ (2 ^ precision + 1) * n ∧
      (2 ^ precision - 1) * n ≤ 2 ^ precision * (roundSteps n d * d) := by
  have near := divNearest_bounds (n := n) (Nat.mul_pos positive (gridWidth_pos (n / d)))
  have whole : divNearest n (d * gridWidth (n / d)) * (d * gridWidth (n / d)) =
      roundSteps n d * d := by
    simp only [roundSteps]
    ring
  rw [whole] at near
  have small : 2 ^ 52 * (d * gridWidth (n / d)) ≤ n := by
    rcases Nat.eq_zero_or_pos (excess (n / d)) with none | long
    · rwa [gridWidth_eq, none, Nat.pow_zero, Nat.mul_one]
    · calc
        2 ^ 52 * (d * gridWidth (n / d)) = 2 ^ (precision - 1) * gridWidth (n / d) * d := by
          simp only [precision]
          ring
        _ ≤ n / d * d := Nat.mul_le_mul_right d (le_of_excess long)
        _ ≤ n := Nat.div_mul_le_self n d
  simp only [precision] at small ⊢
  omega

/-- The error of one rounding is at most half of this part. -/
def grain : ℚ := 1 / 2 ^ 52

/-- A count is another one up to some grains. -/
def Within (k x y : ℕ) : Prop := (1 - k * grain) * (x : ℚ) ≤ y ∧ (y : ℚ) ≤ (1 + k * grain) * x

namespace Within

variable {k k' x x' y y' z : ℕ}

theorem refl (x : ℕ) : Within 0 x x := by
  constructor <;> simp

theorem mono (has : Within k x y) (le : k ≤ k') : Within k' x y := by
  have more : (k : ℚ) * grain ≤ k' * grain :=
    mul_le_mul_of_nonneg_right (by exact_mod_cast le) (by norm_num [grain])
  constructor
  · exact (mul_le_mul_of_nonneg_right (by linarith) x.cast_nonneg).trans has.1
  · exact has.2.trans (mul_le_mul_of_nonneg_right (by linarith) x.cast_nonneg)

theorem add (has : Within k x y) (has' : Within k x' y') : Within k (x + x') (y + y') := by
  simp only [Within, Nat.cast_add, mul_add]
  exact ⟨add_le_add has.1 has'.1, add_le_add has.2 has'.2⟩

/-- One more rounding is one more grain. -/
theorem round (has : Within k x y) (few : k ≤ 2 ^ 52)
    (rounded : 2 ^ precision * z ≤ (2 ^ precision + 1) * y ∧
      (2 ^ precision - 1) * y ≤ 2 ^ precision * z) : Within (k + 1) x z := by
  obtain ⟨least, most⟩ := has
  have above : (2 : ℚ) ^ 53 * z ≤ (2 ^ 53 + 1) * y := by exact_mod_cast rounded.1
  have below : ((2 : ℚ) ^ 53 - 1) * y ≤ 2 ^ 53 * z := by
    have cut : ((2 ^ 53 - 1 : ℕ) : ℚ) * y ≤ ((2 ^ 53 : ℕ) : ℚ) * z := by exact_mod_cast rounded.2
    norm_num at cut ⊢
    exact cut
  have parts : (k : ℚ) * x ≤ 2 ^ 52 * x :=
    mul_le_mul_of_nonneg_right (by exact_mod_cast few) x.cast_nonneg
  have some_ : 0 ≤ (k : ℚ) * x := mul_nonneg k.cast_nonneg x.cast_nonneg
  simp only [Within, grain] at least most ⊢
  push_cast
  constructor <;> nlinarith

/-- Counts that are farther apart than their grains are in order. -/
theorem le_of_gap (has : Within k x y) (has' : Within k x' y')
    (gap : (2 ^ 52 + k) * x + k * x' ≤ 2 ^ 52 * x') : y ≤ y' := by
  have apart : ((2 : ℚ) ^ 52 + k) * x + k * x' ≤ 2 ^ 52 * x' := by exact_mod_cast gap
  have order : (y : ℚ) ≤ y' := by
    refine has.2.trans (le_trans ?_ has'.1)
    rw [grain]
    linarith
  exact_mod_cast order

/-- Up to `2 ^ 52` grains are at most the number itself. -/
theorem le_double (has : Within k x y) (few : k ≤ 2 ^ 52) : y ≤ 2 * x := by
  have parts : (k : ℚ) * grain ≤ 1 := by
    have few : (k : ℚ) ≤ 2 ^ 52 := by exact_mod_cast few
    rw [grain, mul_one_div, div_le_one (by norm_num)]
    exact few
  have double : (y : ℚ) ≤ 2 * x :=
    has.2.trans (mul_le_mul_of_nonneg_right (by linarith) x.cast_nonneg)
  exact_mod_cast double

end Within

end Binary64

end LoadHarness
