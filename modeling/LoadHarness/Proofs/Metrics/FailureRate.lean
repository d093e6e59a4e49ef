import LoadHarness.Proofs.Binary64.Order
import LoadHarness.Proofs.Threshold.Defaults

/-!
# Rates that reach the failure bound

A rate is the quotient of two rounded counts, rounded once more. Counts of fewer than 54 binary
digits are not changed by rounding, and for them the bound is reached exactly when at least one
in ten thousand observations was a failure. For longer counts it is reached if at least one in
9999 was: the roundings together do not lose as much as the two fractions differ.
-/

namespace LoadHarness

namespace Threshold

open Binary64

/-- The steps of the failure bound. -/
def failureSteps : Nat := roundSteps (1 * unit) (Nat.pow 10 4)

/-- The number of the format that comes before the failure bound. -/
def failureFloor : Nat := failureSteps - gridWidth failureSteps

/-- Where the failure bound stands: a little above one in ten thousand but below one in 9999,
and the number before it is a little below one in ten thousand. -/
theorem failureSteps_spec :
    gridWidth failureFloor ∣ failureFloor ∧ failureFloor < failureSteps ∧
      2 ^ precision * (unit - 10000 * failureFloor) ≤ unit ∧
      failureSteps * (2 ^ precision + 1) * 9999 ≤ unit * (2 ^ precision - 1) := by
  decide +kernel

theorem failureBound_eq :
    ∃ grid, failureBound = .finite false failureSteps grid := by
  have one := gridWidth_dvd_count (n := 1) (by decide)
  have small : failureSteps ≤ 1 * unit :=
    roundSteps_le one (by decide) (Nat.le_mul_of_pos_right _ (by decide))
  have grid : OnGrid failureSteps := by
    refine onGrid_roundSteps (Nat.lt_of_le_of_lt small ?_)
    rw [Nat.one_mul, unit_eq, ceiling_eq]
    exact Nat.pow_lt_pow_right (by decide) (by decide)
  have read : failureBound = ofSteps false failureSteps := by
    have digits : ¬ (310 : Int) < -4 + (Nat.repr 1).length := by decide
    have places : ¬ -4 + ((Nat.repr 1).length : Int) < -330 := by decide
    have below : ¬ (0 : Int) ≤ -4 := by decide
    rw [failureBound, ofDecimal, if_neg Nat.one_ne_zero]
    simp only [digits, places, below, if_false]
    rfl
  exact ⟨grid, by rw [read, ofSteps, dif_pos grid]⟩

section

variable {hits total : Nat}

/-- The rounded quotient reaches the bound if the exact one is at least one in ten thousand. -/
theorem failureSteps_le (some : 0 < total) (often : total ≤ 10000 * hits) :
    failureSteps ≤ roundSteps (hits * unit * unit) (total * unit) := by
  refine roundSteps_mono (by decide) (Nat.mul_pos some unit_pos) ?_
  calc
    1 * unit * (total * unit) = total * (unit * unit) := by rw [Nat.one_mul, Nat.mul_left_comm]
    _ ≤ 10000 * hits * (unit * unit) := Nat.mul_le_mul_right _ often
    _ = hits * unit * unit * 10000 := by rw [Nat.mul_comm _ 10000, Nat.mul_assoc, Nat.mul_assoc]

/-- The rounded quotient stays below the bound if the exact one is less. -/
theorem roundSteps_le_failureFloor (range : total < 2 ^ precision)
    (rare : 10000 * hits < total) :
    roundSteps (hits * unit * unit) (total * unit) ≤ failureFloor := by
  obtain ⟨grid, -, near, -⟩ := failureSteps_spec
  -- The floor misses one in ten thousand by less than one observation in `total` does.
  have missed : total * (unit - 10000 * failureFloor) ≤ unit :=
    Nat.le_trans (Nat.mul_le_mul_right _ (Nat.le_of_lt range)) near
  have counted : (10000 * hits + 1) * unit ≤ total * unit := Nat.mul_le_mul_right unit rare
  have below : hits * unit ≤ failureFloor * total := by
    rw [Nat.mul_sub, Nat.mul_left_comm, Nat.mul_comm total failureFloor] at missed
    rw [Nat.add_mul, Nat.one_mul, Nat.mul_assoc] at counted
    generalize hits * unit = h at counted ⊢
    generalize failureFloor * total = steps at missed ⊢
    generalize total * unit = most at counted missed
    omega
  refine roundSteps_le grid (Nat.mul_pos (Nat.zero_lt_of_lt rare) unit_pos) ?_
  calc
    hits * unit * unit ≤ failureFloor * total * unit := Nat.mul_le_mul_right unit below
    _ = failureFloor * (total * unit) := Nat.mul_assoc _ _ _

end

end Threshold

namespace Rate

open Binary64 Threshold

/-- A rate is the rounded quotient of its counts. -/
theorem ratio_eq {r : Rate} {hits total : Nat} {grid : OnGrid hits} {grid' : OnGrid total}
    (some : 0 < r.total) (some' : 0 < total) (left : ofNat r.hits = .finite false hits grid)
    (right : ofNat r.total = .finite false total grid') :
    r.ratio = ofSteps false (roundSteps (hits * unit) total) := by
  rw [Rate.ratio, if_neg (Nat.ne_of_gt some), left, right]
  exact if_neg (Nat.ne_of_gt some')

/-- With counts that rounding does not change, a rate is below the failure bound exactly if
fewer than one in ten thousand observations were failures. -/
theorem ratio_lt_failureBound_iff {r : Rate} (range : r.total < 2 ^ precision) :
    r.ratio.lt failureBound = true ↔ r.hits = 0 ∨ 10000 * r.hits < r.total := by
  obtain ⟨grid, bound⟩ := failureBound_eq
  obtain ⟨-, floorLess, -⟩ := failureSteps_spec
  rcases Nat.eq_zero_or_pos r.total with none | some
  · have hits : r.hits = 0 := Nat.eq_zero_of_add_eq_zero_right none
    have below : Binary64.zero.lt (.finite false failureSteps grid) = true :=
      finite_lt_iff.mpr (Nat.zero_lt_of_lt floorLess)
    rw [bound, Rate.ratio, if_pos none]
    exact ⟨fun _ => .inl hits, fun _ => below⟩
  obtain ⟨gridHits, left⟩ := ofNat_eq_exact (Nat.lt_of_le_of_lt (Nat.le_add_right _ _) range)
  obtain ⟨gridTotal, right⟩ := ofNat_eq_exact range
  rw [ratio_eq some (Nat.mul_pos some unit_pos) left right, bound]
  constructor
  · intro below
    refine .inr (Nat.lt_of_not_le fun often => ?_)
    rw [not_lt_of_le (failureSteps_le some often)] at below
    cases below
  · intro seldom
    have rare : 10000 * r.hits < r.total := by omega
    have less := Nat.lt_of_le_of_lt (roundSteps_le_failureFloor range rare) floorLess
    rw [ofSteps, dif_pos (onGrid_roundSteps (Nat.lt_trans less grid.1))]
    exact finite_lt_iff.mpr less

/-- Fewer failures among as many observations do not take a rate to the failure bound. -/
theorem ratio_lt_failureBound_of_le {r s : Rate} (range : r.total < 2 ^ precision)
    (total : s.total = r.total) (hits : s.hits ≤ r.hits)
    (below : r.ratio.lt failureBound = true) : s.ratio.lt failureBound = true := by
  rw [ratio_lt_failureBound_iff range] at below
  rw [ratio_lt_failureBound_iff (total ▸ range), total]
  omega

/-- A rate of at least one in 9999 is not below the failure bound. -/
theorem ratio_not_lt_failureBound {r : Rate} (hit : 0 < r.hits)
    (often : r.total ≤ 9999 * r.hits) (range : r.total < 2 ^ countBits) :
    r.ratio.lt failureBound = false := by
  have some : 0 < r.total := Nat.lt_of_lt_of_le hit (Nat.le_add_right _ _)
  have hitsRange : r.hits < 2 ^ countBits := Nat.lt_of_le_of_lt (Nat.le_add_right _ _) range
  obtain ⟨gridHits, hits⟩ := ofNat_eq hitsRange
  obtain ⟨gridTotal, total⟩ := ofNat_eq range
  obtain ⟨grid, bound⟩ := failureBound_eq
  obtain ⟨-, -, -, slack⟩ := failureSteps_spec
  have below := (roundSteps_bounds (r.hits * unit)).2
  have above := (roundSteps_bounds (r.total * unit)).1
  have positive : 0 < roundSteps (r.total * unit) 1 := by
    refine le_roundSteps (b := 1) (Nat.one_dvd _) (by decide) ?_
    exact Nat.mul_le_mul some unit_pos
  rw [ratio_eq some positive hits total, bound]
  refine not_lt_of_le (le_roundSteps grid.2 positive ?_)
  generalize roundSteps (r.hits * unit) 1 = x at below ⊢
  generalize roundSteps (r.total * unit) 1 = y at above ⊢
  refine Nat.le_of_mul_le_mul_left ?_ (Nat.two_pow_pos precision)
  calc
    2 ^ precision * (failureSteps * y) = failureSteps * (2 ^ precision * y) :=
      Nat.mul_left_comm _ _ _
    _ ≤ failureSteps * ((2 ^ precision + 1) * (r.total * unit)) := Nat.mul_le_mul_left _ above
    _ ≤ failureSteps * ((2 ^ precision + 1) * (9999 * r.hits * unit)) :=
      Nat.mul_le_mul_left _ (Nat.mul_le_mul_left _ (Nat.mul_le_mul_right _ often))
    _ = failureSteps * (2 ^ precision + 1) * 9999 * (r.hits * unit) := by
      simp only [Nat.mul_assoc]
    _ ≤ unit * (2 ^ precision - 1) * (r.hits * unit) := Nat.mul_le_mul_right _ slack
    _ = unit * ((2 ^ precision - 1) * (r.hits * unit)) := Nat.mul_assoc _ _ _
    _ ≤ unit * (2 ^ precision * x) := Nat.mul_le_mul_left _ below
    _ = 2 ^ precision * (x * unit) := by rw [Nat.mul_left_comm, Nat.mul_comm unit x]

end Rate

end LoadHarness
