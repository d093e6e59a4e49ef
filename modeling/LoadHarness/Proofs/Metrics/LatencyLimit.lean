import LoadHarness.Proofs.Metrics.Domination

/-!
# Percentiles that reach the latency limit

The limit of 100 milliseconds lies inside a bucket, which starts at 99968 microseconds. All
latencies of this bucket are reported as its highest value, which is above the limit. So the 95th
percentile reaches the limit exactly if the latency of its rank is at least 99968 microseconds. Of
fewer than `2 ^ 48` latencies this rank is nineteen twentieths of their number, rounded up: then the
limit is reached exactly if fewer than nineteen in twenty latencies are below the bucket.
-/

namespace LoadHarness

open Binary64

namespace Trend

/-! ## The bucket of the limit -/

/-- The latency limit in microseconds. -/
def limitMicros : Nat := 100000

/-- Where the bucket of the limit starts, in microseconds. -/
def limitStart : Nat := 99968

theorem lowest_limitMicros : lowest limitMicros = limitStart := by decide

/-- Microseconds are at least 100 milliseconds exactly if there are at least one hundred thousand
of them. -/
theorem hundred_le_toMillis_iff {micros : Nat} (few : micros < 2 ^ precision) :
    (Binary64.ofNat 100).le (toMillis micros) = true ↔ limitMicros ≤ micros := by
  have hundred : HasSteps (.ofNat 100) (100 * unit) := HasSteps.ofNat (by decide)
  rw [hundred.le_iff (hasSteps_toMillis few)]
  constructor
  · intro reached
    apply Nat.le_of_not_lt
    intro less
    -- One microsecond less is below a number of the format that is itself below the limit.
    obtain ⟨part, parts, positive, grid⟩ := exists_part (k := 10) (by decide)
    have below : roundSteps (micros * unit) 1000 ≤ 102399 * part := by
      apply roundSteps_le (grid 102399 (by decide)) (by decide)
      calc
        micros * unit ≤ 99999 * unit := Nat.mul_le_mul_right unit (Nat.le_sub_one_of_lt less)
        _ ≤ 102399 * part * 1000 := by omega
    have order := Nat.le_trans reached below
    omega
  · intro reached
    apply le_roundSteps (gridWidth_dvd_count (by decide)) (by decide)
    rw [Nat.mul_right_comm]
    exact Nat.mul_le_mul_right unit reached

/-- A bucket reaches the limit exactly if it does not start before that of the limit. -/
theorem limitMicros_le_highest_iff {low : Nat} (starts : Starts low) :
    limitMicros ≤ highest low ↔ limitStart ≤ low := by
  rw [← lowest_limitMicros, ← starts, lowest_le_iff, starts]

/-- A latency is in an earlier bucket exactly if it is shorter. -/
theorem lowest_counted_lt_iff (l : Duration) :
    lowest (counted l) < limitStart ↔ l.micros < limitStart := by
  have starts : lowest limitStart = limitStart := by decide
  have order : limitStart ≤ lowest (counted l) ↔ limitStart ≤ counted l := by
    constructor
    · intro le
      exact Nat.le_trans le (lowest_le _)
    · intro le
      exact starts ▸ lowest_mono le
  have same : limitStart ≤ counted l ↔ limitStart ≤ l.micros := by
    have numbers : 1 < limitStart ∧ limitStart < trackable ∧ limitStart ≤ saturated := by decide
    simp only [counted]
    split <;> omega
  rw [← Nat.not_le, order, same, Nat.not_le]

section

variable {ls : List Duration} {rank : Nat}

/-- The latency at a rank is not before the bucket of the limit exactly if fewer latencies than
that are. -/
theorem limitStart_le_bucketAt_iff (positive : 1 ≤ rank) (inside : rank ≤ ls.length) :
    limitStart ≤ bucketAt rank (ofLatencies ls).buckets ↔
      ls.countP (·.micros < limitStart) < rank := by
  have place := getElem?_spread positive ((count_ofLatencies ls).symm ▸ inside)
  obtain ⟨range, same⟩ := List.getElem?_eq_some_iff.mp place
  have early : (spread (ofLatencies ls).buckets).countP (· ≤ limitStart - 1) =
      ls.countP (·.micros < limitStart) := by
    rw [(spread_ofLatencies ls).countP_eq, List.countP_map]
    apply List.countP_congr
    intro l _
    have some_ : 0 < limitStart := by decide
    have before := lowest_counted_lt_iff l
    simp only [Function.comp_apply, decide_eq_true_eq]
    omega
  have order := lt_countP_iff (ordered_ofLatencies ls).spread range (limitStart - 1)
  rw [early, same] at order
  have some_ : 0 < limitStart := by decide
  omega

end

/-! ## The rank of 95 percent -/

/-- The steps of the hundredth of 95. -/
def ninetyFiveSteps : Nat := roundSteps (95 * unit * unit) (100 * unit)

/-- It is a little below nineteen twentieths. -/
theorem ninetyFiveSteps_spec :
    0 < ninetyFiveSteps ∧ 20 * ninetyFiveSteps ≤ 19 * unit ∧
      2 ^ 50 * (19 * unit - 20 * ninetyFiveSteps) ≤ unit := by
  decide +kernel

theorem hasSteps_ninetyFive : HasSteps (.ofNat 95 / .ofNat 100) ninetyFiveSteps :=
  (HasSteps.hundredth (HasSteps.ofNat (by decide))
    (Nat.mul_le_mul_right unit (by decide))).1

/-- What the hundredth misses of nineteen twentieths is too little to lose more than a part of what
a product has beyond a whole number. -/
theorem part_le_product {s one part n k : Nat} (most : 20 * s ≤ 19 * one)
    (near : 2 ^ 50 * (19 * one - 20 * s) ≤ one) (parts : one = 2 ^ 5 * part) (few : n < 2 ^ 48)
    (below : 20 * k < 19 * n) : (32 * k + 1) * part ≤ s * n := by
  obtain ⟨missing, whole⟩ := Nat.le.dest most
  have little : 2 ^ 50 * missing ≤ one := by
    rwa [← whole, Nat.add_sub_cancel_left] at near
  have missed : 4 * (missing * n) ≤ one := by
    refine Nat.le_of_mul_le_mul_left ?_ (Nat.two_pow_pos 48)
    calc
      2 ^ 48 * (4 * (missing * n)) = 2 ^ 50 * missing * n := by ring
      _ ≤ one * n := Nat.mul_le_mul_right n little
      _ ≤ one * 2 ^ 48 := Nat.mul_le_mul_left one (Nat.le_of_lt few)
      _ = 2 ^ 48 * one := Nat.mul_comm ..
  have product : (20 * k + 1) * one ≤ 20 * (s * n) + missing * n := by
    calc
      (20 * k + 1) * one ≤ 19 * n * one := Nat.mul_le_mul_right one below
      _ = 19 * one * n := Nat.mul_right_comm ..
      _ = (20 * s + missing) * n := by rw [whole]
      _ = 20 * (s * n) + missing * n := by ring
  have wholes : (20 * k + 1) * one = 640 * (k * part) + 32 * part := by
    rw [parts]
    ring
  have goal : (32 * k + 1) * part = 32 * (k * part) + part := by ring
  omega

/-- The product with a count that is not too great is rounded up as nineteen twentieths of it
are. -/
theorem ceil_ninetyFive {n k : Nat} (few : n < 2 ^ 48) (above : 19 * n ≤ 20 * (k + 1))
    (below : 20 * k < 19 * n) :
    (roundSteps (ninetyFiveSteps * (n * unit)) unit + unit - 1) / unit = k + 1 := by
  obtain ⟨-, most, near⟩ := ninetyFiveSteps_spec
  obtain ⟨part, parts, positive, grid⟩ := exists_part (k := 5) (by decide)
  have upper : roundSteps (ninetyFiveSteps * (n * unit)) unit ≤ (k + 1) * unit := by
    apply roundSteps_le (gridWidth_dvd_count (by simp only [precision]; omega)) unit_pos
    rw [← Nat.mul_assoc]
    apply Nat.mul_le_mul_right
    apply Nat.le_of_mul_le_mul_left _ (by decide : 0 < 20)
    calc
      20 * (ninetyFiveSteps * n) = 20 * ninetyFiveSteps * n := (Nat.mul_assoc ..).symm
      _ ≤ 19 * unit * n := Nat.mul_le_mul_right n most
      _ = 19 * n * unit := Nat.mul_right_comm ..
      _ ≤ 20 * (k + 1) * unit := Nat.mul_le_mul_right unit above
      _ = 20 * ((k + 1) * unit) := Nat.mul_assoc ..
  have lower : (32 * k + 1) * part ≤ roundSteps (ninetyFiveSteps * (n * unit)) unit := by
    apply le_roundSteps (grid _ (by simp only [precision]; omega)) unit_pos
    rw [← Nat.mul_assoc]
    exact Nat.mul_le_mul_right unit (part_le_product most near parts few below)
  have beyond : (32 * k + 1) * part = k * unit + part := by
    rw [parts]
    ring
  rw [beyond] at lower
  generalize roundSteps (ninetyFiveSteps * (n * unit)) unit = product at upper lower ⊢
  apply Nat.div_eq_of_lt_le
  · rw [Nat.succ_mul]
    omega
  · rw [Nat.succ_mul]
    omega

/-- Of not too many latencies the rank of 95 percent is nineteen twentieths, rounded up. -/
theorem rank_ninetyFive {t : Trend} (some_ : 1 ≤ t.count) (few : t.count < 2 ^ 48) :
    t.rank (.ofNat 95 / .ofNat 100) = (19 * t.count + 19) / 20 := by
  have range : t.count < 2 ^ precision := Nat.lt_trans few (by decide)
  obtain ⟨k, count⟩ : ∃ k, (19 * t.count + 19) / 20 = k + 1 :=
    Nat.exists_eq_add_one.mpr (by omega)
  have ceiled := ceil_ninetyFive (k := k) few (by omega) (by omega)
  obtain ⟨-, most, -⟩ := ninetyFiveSteps_spec
  obtain ⟨product, -⟩ := hasSteps_ninetyFive.part (HasSteps.ofNat range) (by omega)
  have words : Word.bound64 = 2 ^ 64 := by decide
  rw [rank, product.ceilNat, ceiled, count, Nat.min_eq_left (by omega)]
  exact Nat.max_eq_right (Nat.succ_pos k)

/-! ## The percentile -/

section

variable {ls : List Duration}

/-- The 95th percentile reaches 100 milliseconds exactly if there are latencies, and fewer of them
than the rank are before the bucket of the limit. -/
theorem hundred_le_percentile_iff (some_ : ls ≠ []) :
    (Binary64.ofNat 100).le ((ofLatencies ls).percentile (.ofNat 95)) = true ↔
      ls.countP (·.micros < limitStart) < (ofLatencies ls).rank (.ofNat 95 / .ofNat 100) := by
  have low : Binary64.zero.le (.ofNat 95) = true := by decide +kernel
  have most : (Binary64.ofNat 95).le (.ofNat 99) = true := by decide +kernel
  have high : (Binary64.ofNat 95).le (.ofNat 100) = true := by decide +kernel
  have positive := rank_pos (ofLatencies ls) (.ofNat 95 / .ofNat 100)
  have nonempty : 1 ≤ (ofLatencies ls).count :=
    (count_ofLatencies ls).symm ▸ List.length_pos_iff.mpr some_
  have inside := rank_le_of_between nonempty low high (.inr most)
  have short : ninetyFiveSteps ≤ unit := by
    obtain ⟨-, most, -⟩ := ninetyFiveSteps_spec
    omega
  have nonzero : ¬ (Binary64.ofNat 95 / .ofNat 100).isZero = true := by
    rw [hasSteps_ninetyFive.isZero_iff]
    exact Nat.ne_of_gt ninetyFiveSteps_spec.1
  rw [percentile_ofLatencies some_ low high,
    hundred_le_toMillis_iff (quantile_lt ls hasSteps_ninetyFive short),
    quantile_eq hasSteps_ninetyFive short, if_neg nonzero,
    limitMicros_le_highest_iff (starts_bucketAt ls positive),
    limitStart_le_bucketAt_iff positive (count_ofLatencies ls ▸ inside)]

/-- Of not too many latencies it does exactly if fewer than nineteen in twenty are before that
bucket. -/
theorem hundred_le_percentile_iff_of_few (few : ls.length < 2 ^ 48) :
    (Binary64.ofNat 100).le ((ofLatencies ls).percentile (.ofNat 95)) = true ↔
      20 * ls.countP (·.micros < limitStart) < 19 * ls.length := by
  by_cases none : ls = []
  · subst none
    refine iff_of_false (fun reached => ?_) (Nat.lt_irrefl 0)
    have zero : (Binary64.ofNat 100).le .zero = false := by decide +kernel
    exact Bool.false_ne_true (zero.symm.trans reached)
  · have total := count_ofLatencies ls
    have nonempty : 1 ≤ ls.length := List.length_pos_iff.mpr none
    rw [hundred_le_percentile_iff none, rank_ninetyFive (total ▸ nonempty) (total ▸ few), total]
    omega

end

end Trend

end LoadHarness
