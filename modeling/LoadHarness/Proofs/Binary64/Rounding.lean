import Mathlib
import LoadHarness.Binary64.Basic

/-!
# Rounding to binary64

A count of least steps is rounded to a multiple of the distance between the magnitudes of its
size. The result is again a number of the format, rounding keeps the order of quotients and the
numbers of the format, and it changes a whole count by at most one part in `2 ^ 53`.
-/

namespace LoadHarness

/-! ## Sizes -/

theorem bitLength_le_iff {n k : Nat} : bitLength n ≤ k ↔ n < 2 ^ k := by
  simp only [bitLength]
  split
  · next zero => simp [zero]
  · next positive => rw [Nat.succ_le_iff, Nat.log2_lt positive]

/-- The nearest quotient is off by at most a half. -/
theorem divNearest_bounds {n d : Nat} (positive : 0 < d) :
    2 * (divNearest n d * d) ≤ 2 * n + d ∧ 2 * n ≤ 2 * (divNearest n d * d) + d := by
  have whole : n / d * d + n % d = n := by rw [Nat.mul_comm]; exact Nat.div_add_mod n d
  have part := Nat.mod_lt n positive
  have next : (n / d + 1) * d = n / d * d + d := Nat.succ_mul _ _
  simp only [divNearest]
  split
  · omega
  split
  · omega
  split
  · omega
  · omega

theorem div_le_divNearest (n d : Nat) : n / d ≤ divNearest n d := by
  simp only [divNearest]
  split
  · exact Nat.le_refl _
  split
  · exact Nat.le_succ _
  split
  · exact Nat.le_refl _
  · exact Nat.le_succ _

theorem divNearest_le_succ (n d : Nat) : divNearest n d ≤ n / d + 1 := by
  simp only [divNearest]
  split
  · exact Nat.le_succ _
  split
  · exact Nat.le_refl _
  split
  · exact Nat.le_succ _
  · exact Nat.le_refl _

theorem div_le_div_of_cross {n d n' d' : Nat} (positive : 0 < d) (positive' : 0 < d')
    (le : n * d' ≤ n' * d) : n / d ≤ n' / d' := by
  refine (Nat.le_div_iff_mul_le positive').mpr (Nat.le_of_mul_le_mul_right ?_ positive)
  calc
    n / d * d' * d = n / d * d * d' := Nat.mul_right_comm _ _ _
    _ ≤ n * d' := Nat.mul_le_mul_right d' (Nat.div_mul_le_self n d)
    _ ≤ n' * d := le

/-- With equal quotients the remainders are in the order of the fractions. -/
theorem mod_mul_le_mod_mul {n d n' d' : Nat} (same : n / d = n' / d') (le : n * d' ≤ n' * d) :
    n % d * d' ≤ n' % d' * d := by
  have whole : n = n / d * d + n % d := (Nat.div_add_mod' n d).symm
  have whole' : n' = n / d * d' + n' % d' := same ▸ (Nat.div_add_mod' n' d').symm
  rw [whole, whole', Nat.add_mul, Nat.add_mul, Nat.mul_right_comm (n / d)] at le
  exact Nat.le_of_add_le_add_left le

section

variable {r r' d d' : Nat}

/-- A fraction that reaches one half is not above one that does not. -/
theorem le_double_of_cross (positive : 0 < d) (le : r * d' ≤ r' * d) (reached : d ≤ 2 * r) :
    d' ≤ 2 * r' := by
  refine Nat.le_of_mul_le_mul_right ?_ positive
  calc
    d' * d = d * d' := Nat.mul_comm _ _
    _ ≤ 2 * r * d' := Nat.mul_le_mul_right d' reached
    _ = 2 * (r * d') := Nat.mul_assoc _ _ _
    _ ≤ 2 * (r' * d) := Nat.mul_le_mul_left 2 le
    _ = 2 * r' * d := (Nat.mul_assoc _ _ _).symm

theorem lt_double_of_cross (positive : 0 < d') (le : r * d' ≤ r' * d) (passed : d < 2 * r) :
    d' < 2 * r' := by
  refine Nat.lt_of_mul_lt_mul_right (a := d) ?_
  calc
    d' * d = d * d' := Nat.mul_comm _ _
    _ < 2 * r * d' := Nat.mul_lt_mul_of_pos_right passed positive
    _ = 2 * (r * d') := Nat.mul_assoc _ _ _
    _ ≤ 2 * (r' * d) := Nat.mul_le_mul_left 2 le
    _ = 2 * r' * d := (Nat.mul_assoc _ _ _).symm

end

/-- The nearest quotients are in the order of the quotients. -/
theorem divNearest_mono {n d n' d' : Nat} (positive : 0 < d) (positive' : 0 < d')
    (le : n * d' ≤ n' * d) : divNearest n d ≤ divNearest n' d' := by
  rcases Nat.lt_or_eq_of_le (div_le_div_of_cross positive positive' le) with less | same
  · calc
      divNearest n d ≤ n / d + 1 := divNearest_le_succ n d
      _ ≤ n' / d' := less
      _ ≤ divNearest n' d' := div_le_divNearest n' d'
  · -- With equal quotients it is decided by where the remainders stand to one half.
    have parts := mod_mul_le_mod_mul same le
    have half : 2 * (n % d) < d ∨ d' ≤ 2 * (n' % d') :=
      (Nat.lt_or_ge _ d).imp_right (le_double_of_cross positive parts)
    have more : 2 * (n % d) ≤ d ∨ d' < 2 * (n' % d') :=
      (Nat.lt_or_ge d _).symm.imp_right (lt_double_of_cross positive' parts)
    simp only [divNearest, ← same]
    repeat' split
    all_goals omega

namespace Binary64

theorem gridWidth_eq (n : Nat) : gridWidth n = 2 ^ excess n := rfl

theorem gridWidth_pos (n : Nat) : 0 < gridWidth n := Nat.two_pow_pos _

theorem gridWidth_dvd_of_le {m n : Nat} (le : excess m ≤ excess n) : gridWidth m ∣ gridWidth n :=
  Nat.pow_dvd_pow 2 le

theorem excess_mono {m n : Nat} (le : m ≤ n) : excess m ≤ excess n := by
  have longer : bitLength m ≤ bitLength n :=
    bitLength_le_iff.mpr (Nat.lt_of_le_of_lt le (bitLength_le_iff.mp (Nat.le_refl _)))
  exact Nat.sub_le_sub_right longer precision

/-- A magnitude has at most as many digits as the format and those that it cannot use. -/
theorem lt_of_excess (n : Nat) : n < 2 ^ precision * gridWidth n := by
  rw [gridWidth_eq, ← Nat.pow_add]
  exact bitLength_le_iff.mp (by simp only [excess]; omega)

/-- A magnitude with digits that it cannot use fills the format. -/
theorem le_of_excess {n : Nat} (long : 0 < excess n) : 2 ^ (precision - 1) * gridWidth n ≤ n := by
  rw [gridWidth_eq, ← Nat.pow_add]
  refine Nat.le_of_not_lt fun short => ?_
  have bits := bitLength_le_iff.mpr short
  simp only [excess, precision] at long bits
  omega

theorem unit_eq : unit = 2 ^ unitBits := by
  unfold unit
  generalize unitBits = n
  rfl

theorem ceiling_eq : ceiling = 2 ^ ceilingBits := by
  unfold ceiling
  generalize ceilingBits = n
  rfl

theorem unit_pos : 0 < unit := by
  rw [unit_eq]
  exact Nat.two_pow_pos unitBits

/-! ## The rounded count -/

section

variable {n d : Nat}

/-- The rounded count has at most as many digits as the format and those that it cannot use. -/
theorem roundSteps_le_full (n d : Nat) :
    roundSteps n d ≤ 2 ^ precision * gridWidth (n / d) := by
  refine Nat.mul_le_mul_right (gridWidth (n / d)) ?_
  refine Nat.le_trans (divNearest_le_succ n _) ?_
  rw [← Nat.div_div_eq_div_mul]
  exact (Nat.div_lt_iff_lt_mul (gridWidth_pos _)).mpr (lt_of_excess _)

/-- The rounded count fills the format if the exact one has digits that it cannot use. -/
theorem full_le_roundSteps (long : 0 < excess (n / d)) :
    2 ^ (precision - 1) * gridWidth (n / d) ≤ roundSteps n d := by
  refine Nat.mul_le_mul_right (gridWidth (n / d)) ?_
  refine Nat.le_trans ?_ (div_le_divNearest n _)
  rw [← Nat.div_div_eq_div_mul]
  exact (Nat.le_div_iff_mul_le (gridWidth_pos _)).mpr (le_of_excess long)

/-- Rounding keeps the order of quotients. -/
theorem roundSteps_mono {n' d' : Nat} (positive : 0 < d) (positive' : 0 < d')
    (le : n * d' ≤ n' * d) : roundSteps n d ≤ roundSteps n' d' := by
  have quotient := div_le_div_of_cross positive positive' le
  rcases Nat.lt_or_eq_of_le (excess_mono quotient) with less | same
  · calc
      roundSteps n d ≤ 2 ^ precision * gridWidth (n / d) := roundSteps_le_full n d
      _ = 2 ^ (precision - 1) * 2 ^ (excess (n / d) + 1) := by
        rw [gridWidth_eq, ← Nat.pow_add, ← Nat.pow_add]
        exact congrArg (2 ^ ·) (Nat.add_right_comm 52 1 _)
      _ ≤ 2 ^ (precision - 1) * gridWidth (n' / d') :=
        Nat.mul_le_mul_left _ (Nat.pow_le_pow_right (by decide) less)
      _ ≤ roundSteps n' d' := full_le_roundSteps (Nat.zero_lt_of_lt less)
  · have width : gridWidth (n / d) = gridWidth (n' / d') := congrArg (Nat.pow 2) same
    simp only [roundSteps, width]
    generalize gridWidth (n' / d') = w at width ⊢
    have broad : 0 < w := width ▸ gridWidth_pos (n / d)
    refine Nat.mul_le_mul_right w (divNearest_mono (Nat.mul_pos positive broad)
      (Nat.mul_pos positive' broad) ?_)
    calc
      n * (d' * w) = n * d' * w := (Nat.mul_assoc _ _ _).symm
      _ ≤ n' * d * w := Nat.mul_le_mul_right w le
      _ = n' * (d * w) := Nat.mul_assoc _ _ _

/-- A number of the format is its own rounding. -/
theorem roundSteps_of_dvd {b : Nat} (grid : gridWidth b ∣ b) : roundSteps b 1 = b := by
  have whole : b % gridWidth b = 0 := Nat.mod_eq_zero_of_dvd grid
  simp only [roundSteps, Nat.div_one, Nat.one_mul, divNearest, whole, Nat.mul_zero, gridWidth_pos,
    if_true]
  exact Nat.div_mul_cancel grid

/-- Rounding does not go below a number of the format. -/
theorem le_roundSteps {b : Nat} (grid : gridWidth b ∣ b) (positive : 0 < d) (le : b * d ≤ n) :
    b ≤ roundSteps n d := by
  rw [← roundSteps_of_dvd grid]
  exact roundSteps_mono Nat.one_pos positive (by rwa [Nat.mul_one])

/-- Rounding does not go above a number of the format. -/
theorem roundSteps_le {b : Nat} (grid : gridWidth b ∣ b) (positive : 0 < d) (le : n ≤ b * d) :
    roundSteps n d ≤ b := by
  rw [← roundSteps_of_dvd grid]
  exact roundSteps_mono positive Nat.one_pos (by rwa [Nat.mul_one])

/-- The rounded count is a multiple of the distance between magnitudes of its own size. -/
theorem gridWidth_dvd_roundSteps (n d : Nat) :
    gridWidth (roundSteps n d) ∣ roundSteps n d := by
  have whole : roundSteps n d =
      divNearest n (d * gridWidth (n / d)) * gridWidth (n / d) := rfl
  have multiple : gridWidth (n / d) ∣ roundSteps n d := ⟨_, whole.trans (Nat.mul_comm _ _)⟩
  rcases Nat.lt_or_eq_of_le (roundSteps_le_full n d) with less | full
  · rw [gridWidth_eq, ← Nat.pow_add] at less
    have short := bitLength_le_iff.mpr less
    refine Nat.dvd_trans (gridWidth_dvd_of_le ?_) multiple
    rw [excess]
    omega
  · rw [gridWidth_eq, ← Nat.pow_add] at full
    have bits : roundSteps n d < 2 ^ (precision + excess (n / d) + 1) := by
      rw [full]
      exact Nat.pow_lt_pow_right (by decide) (Nat.lt_succ_self _)
    have short := bitLength_le_iff.mpr bits
    rw [full] at short ⊢
    refine Nat.pow_dvd_pow 2 ?_
    simp only [excess, precision] at short ⊢
    omega

theorem onGrid_roundSteps (range : roundSteps n d < ceiling) : OnGrid (roundSteps n d) :=
  ⟨range, gridWidth_dvd_roundSteps n d⟩

/-- Rounding changes a whole count by at most one part in `2 ^ 53`. -/
theorem roundSteps_bounds (n : Nat) :
    2 ^ precision * roundSteps n 1 ≤ (2 ^ precision + 1) * n ∧
      (2 ^ precision - 1) * n ≤ 2 ^ precision * roundSteps n 1 := by
  have near := divNearest_bounds (n := n) (gridWidth_pos n)
  have whole : roundSteps n 1 = divNearest n (gridWidth n) * gridWidth n := by
    simp only [roundSteps, Nat.div_one, Nat.one_mul]
  rw [← whole] at near
  have small : gridWidth n = 1 ∨ 2 ^ (precision - 1) * gridWidth n ≤ n := by
    rcases Nat.eq_zero_or_pos (excess n) with none | long
    · exact .inl (by rw [gridWidth, none])
    · exact .inr (le_of_excess long)
  simp only [precision] at small ⊢
  omega

theorem roundSteps_le_double (n : Nat) : roundSteps n 1 ≤ 2 * n := by
  have above := (roundSteps_bounds n).1
  simp only [precision] at above
  omega

end

end Binary64

end LoadHarness
