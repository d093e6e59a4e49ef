import LoadHarness.Proofs.Binary64.Error
import LoadHarness.Proofs.Binary64.Order
import LoadHarness.Proofs.Metrics.Ranking

/-!
# Percentiles

A percentage is divided by 100, the hundredth is multiplied by the number of latencies and the
product is rounded up to a rank, each with the rounding of binary64. Whatever is lost in this, a
greater percentage has no earlier rank. No rank is beyond the last latency if their number is not
changed by rounding; of more latencies only the percentages above 99 may be out of reach, and what
is out of reach is reported as zero. What is reported for any other rank is the highest value of
the bucket of its latency. Only the hundredth zero is reported as the lowest value, and a hundredth
is zero as well where the division of a tiny percentage has no other result.
-/

namespace LoadHarness

open Binary64

/-! ## Hundredths -/

namespace Binary64

/-- The percentages from 0 to 100 have hundredths from zero to one. -/
theorem HasSteps.hundredth {p : Binary64} {m : Nat} (has : HasSteps p m) (most : m ≤ 100 * unit) :
    HasSteps (p / .ofNat 100) (roundSteps (m * unit) (100 * unit)) ∧
      roundSteps (m * unit) (100 * unit) ≤ unit := by
  have positive : 0 < 100 * unit := Nat.mul_pos (by decide) unit_pos
  have short : roundSteps (m * unit) (100 * unit) ≤ unit := by
    refine roundSteps_le gridWidth_dvd_unit positive ?_
    rw [Nat.mul_comm unit]
    exact Nat.mul_le_mul_right unit most
  have range := Nat.lt_of_le_of_lt short unit_lt_ceiling
  exact ⟨has.div (HasSteps.ofNat (by decide)) positive range, short⟩

theorem hundredth_of_between {p : Binary64} (low : Binary64.zero.le p = true)
    (high : p.le (.ofNat 100) = true) : ∃ s, HasSteps (p / .ofNat 100) s ∧ s ≤ unit := by
  obtain ⟨m, has, most⟩ := HasSteps.of_between low (HasSteps.ofNat (by decide)) high
  exact ⟨_, has.hundredth most⟩

/-- A part of a number is not more than the number. -/
theorem HasSteps.part {x y : Binary64} {m n : Nat} (left : HasSteps x m) (right : HasSteps y n)
    (short : m ≤ unit) :
    HasSteps (x * y) (roundSteps (m * n) unit) ∧ roundSteps (m * n) unit ≤ n := by
  have most : roundSteps (m * n) unit ≤ n := by
    refine roundSteps_le right.grid.2 unit_pos ?_
    rw [Nat.mul_comm n]
    exact Nat.mul_le_mul_right n short
  exact ⟨left.mul right (Nat.lt_of_le_of_lt most right.grid.1), most⟩

theorem ceilNat_le (x : Binary64) (bound : Nat) : x.ceilNat bound ≤ bound := by
  rw [ceilNat.eq_def]
  split
  · exact Nat.min_le_right _ _
  · exact Nat.le_refl bound
  · exact Nat.zero_le bound

end Binary64

namespace Trend

variable {t : Trend} {q q' : Binary64} {s s' : Nat}

/-! ## Ranks -/

theorem rank_pos (t : Trend) (q : Binary64) : 1 ≤ t.rank q := Nat.le_max_left _ _

/-- A quantile whose product with the count is not more than the count has a rank within it. -/
theorem rank_le_of_product {z : Nat} (some_ : 1 ≤ t.count)
    (product : HasSteps (q * .ofNat t.count) z) (most : z ≤ t.count * unit) :
    t.rank q ≤ t.count := by
  refine Nat.max_le.mpr ⟨some_, ?_⟩
  rw [product.ceilNat]
  refine Nat.le_trans (Nat.min_le_left _ _) (Nat.lt_succ_iff.mp ?_)
  have positive := unit_pos
  rw [Nat.div_lt_iff_lt_mul positive, Nat.succ_mul]
  omega

/-- There is a latency at every rank, if rounding does not change their number. -/
theorem rank_le (few : t.count < 2 ^ precision) (some_ : 1 ≤ t.count) (has : HasSteps q s)
    (short : s ≤ unit) : t.rank q ≤ t.count := by
  obtain ⟨product, most⟩ := has.part (HasSteps.ofNat few) short
  exact rank_le_of_product some_ product most

/-- The roundings of a count and of a product do not make up for one part in 128. -/
theorem part_of_short_le {n : Nat} (some_ : 1 ≤ n) (short : 128 * s ≤ 127 * unit) :
    roundSteps (s * roundSteps (n * unit) 1) unit ≤ n * unit := by
  have large : 2 ^ 60 ≤ unit := by
    rw [unit_eq]
    exact Nat.pow_le_pow_right (by decide) (by decide)
  have rounded := (roundSteps_bounds (n * unit)).1
  have least : unit ≤ roundSteps (n * unit) 1 := by
    apply le_roundSteps gridWidth_dvd_unit Nat.one_pos
    rw [Nat.mul_one]
    exact Nat.le_mul_of_pos_left unit some_
  generalize roundSteps (n * unit) 1 = m at rounded least ⊢
  have part : roundSteps (s * m) unit ≤ roundSteps (127 * m) 128 := by
    apply roundSteps_mono unit_pos (by decide)
    calc
      s * m * 128 = 128 * s * m := by ring
      _ ≤ 127 * unit * m := Nat.mul_le_mul_right m short
      _ = 127 * m * unit := by ring
  apply Nat.le_trans part
  have product := (roundSteps_mul_bounds (n := 127 * m) (d := 128) (by decide) (by omega)).1
  simp only [precision] at rounded product
  omega

/-- There is a latency at the rank of a quantile that is not too close to one, however many they
are. -/
theorem rank_le_of_short (some_ : 1 ≤ t.count) (has : HasSteps q s)
    (short : 128 * s ≤ 127 * unit) : t.rank q ≤ t.count := by
  rcases Nat.lt_or_ge t.count Word.bound64 with counted | many
  · have words : Word.bound64 = 2 ^ 64 := by decide
    have range : 2 ^ 64 < 2 ^ countBits := Nat.pow_lt_pow_right (by decide) (by decide)
    obtain ⟨grid, rounded⟩ := ofNat_eq (Nat.lt_trans (words ▸ counted) range)
    have total : HasSteps (.ofNat t.count) _ := ⟨false, grid, rounded, nofun⟩
    obtain ⟨product, -⟩ := has.part total (by omega)
    exact rank_le_of_product some_ product (part_of_short_le some_ short)
  · refine Nat.max_le.mpr ⟨some_, Nat.le_trans (ceilNat_le _ _) ?_⟩
    omega

/-- The hundredths of the percentages up to 99 are not too close to one. -/
theorem hundredth_short {p : Binary64} {m : Nat} (has : HasSteps p m) (most : m ≤ 99 * unit) :
    ∃ s, HasSteps (p / .ofNat 100) s ∧ 128 * s ≤ 127 * unit := by
  obtain ⟨quotient, -⟩ := has.hundredth (Nat.le_trans most (Nat.mul_le_mul_right unit (by decide)))
  refine ⟨_, quotient, ?_⟩
  obtain ⟨part, parts, -, grid⟩ := exists_part (k := 7) (by decide)
  have below : roundSteps (m * unit) (100 * unit) ≤ 127 * part := by
    apply roundSteps_le (grid 127 (by decide)) (Nat.mul_pos (by decide) unit_pos)
    rw [← Nat.mul_assoc]
    apply Nat.mul_le_mul_right
    omega
  omega

/-- A percentage has a rank within the count, if rounding does not change the count or the
percentage is not above 99. -/
theorem rank_le_of_between {p : Binary64} (some_ : 1 ≤ t.count)
    (low : Binary64.zero.le p = true) (high : p.le (.ofNat 100) = true)
    (near : t.count < 2 ^ precision ∨ p.le (.ofNat 99) = true) :
    t.rank (p / .ofNat 100) ≤ t.count := by
  rcases near with few | most
  · obtain ⟨s, has, short⟩ := hundredth_of_between low high
    exact rank_le few some_ has short
  · obtain ⟨m, has, below⟩ := HasSteps.of_between low (HasSteps.ofNat (by decide)) most
    obtain ⟨s, quotient, short⟩ := hundredth_short has below
    exact rank_le_of_short some_ quotient short

/-! ## What is reported -/

theorem one_not_lt (has : HasSteps q s) (short : s ≤ unit) : (Binary64.ofNat 1).lt q = false := by
  have one : HasSteps (.ofNat 1) (1 * unit) := HasSteps.ofNat (by decide)
  refine Bool.eq_false_iff.mpr fun more => ?_
  have beyond := (one.lt_iff has).mp more
  rw [Nat.one_mul] at beyond
  exact Nat.not_lt.mpr short beyond

/-- A quantile is reported as the highest value of its bucket, the quantile zero as the lowest. -/
theorem quantile_eq (has : HasSteps q s) (short : s ≤ unit) :
    t.quantile q = if q.isZero then bucketAt (t.rank q) t.buckets
      else highest (bucketAt (t.rank q) t.buckets) := by
  simp only [quantile, one_not_lt has short, Bool.false_eq_true, if_false]

/-- A trend holds latencies and nothing else. -/
def IsFilled (t : Trend) : Prop := t.count = 0 → t.buckets = []

theorem isFilled_ofLatencies (ls : List Duration) : (ofLatencies ls).IsFilled := by
  intro none
  rw [count_ofLatencies] at none
  rw [List.length_eq_zero_iff.mp none]
  rfl

/-- The percentages of the snapshot are the quantiles of their two decimal places. -/
theorem quantile_of_percentage :
    (Binary64.ofNat 50).clamp .zero (.ofNat 100) / .ofNat 100 = hundredths 50 ∧
      (Binary64.ofNat 90).clamp .zero (.ofNat 100) / .ofNat 100 = hundredths 90 ∧
      (Binary64.ofNat 95).clamp .zero (.ofNat 100) / .ofNat 100 = hundredths 95 ∧
      (Binary64.ofNat 99).clamp .zero (.ofNat 100) / .ofNat 100 = hundredths 99 := by
  decide +kernel

/-- A percentile is read from its quantile, and zero if there are no latencies. -/
theorem percentile_eq (filled : t.IsFilled) {p q : Binary64}
    (same : p.clamp .zero (.ofNat 100) / .ofNat 100 = q) :
    t.percentile p = if t.buckets = [] then .zero else toMillis (t.quantile q) := by
  have none : t.isEmpty = true ↔ t.buckets = [] := by
    constructor
    · intro empty
      exact filled (beq_iff_eq.mp empty)
    · obtain ⟨buckets⟩ := t
      rintro rfl
      rfl
  rw [percentile, same]
  simp only [none]

/-- The quantiles of the summary are percentiles. -/
theorem summary_eq (filled : t.IsFilled) :
    t.percentile (.ofNat 50) = t.summary.median ∧ t.percentile (.ofNat 90) = t.summary.p90 ∧
      t.percentile (.ofNat 95) = t.summary.p95 ∧ t.percentile (.ofNat 99) = t.summary.p99 := by
  obtain ⟨median, p90, p95, p99⟩ := quantile_of_percentage
  rw [percentile_eq filled median, percentile_eq filled p90, percentile_eq filled p95,
    percentile_eq filled p99]
  obtain ⟨buckets⟩ := t
  cases buckets with
  | nil => exact ⟨rfl, rfl, rfl, rfl⟩
  | cons first rest =>
      obtain ⟨last, found⟩ := Option.isSome_iff_exists.mp
        (List.getLast?_isSome.mpr (List.cons_ne_nil first rest))
      simp [summary, found]

section

variable {ls : List Duration} {p : Binary64}

/-- A percentage is not changed before it is divided. -/
theorem percentile_ofLatencies (some_ : ls ≠ []) (low : Binary64.zero.le p = true)
    (high : p.le (.ofNat 100) = true) :
    (ofLatencies ls).percentile p = toMillis ((ofLatencies ls).quantile (p / .ofNat 100)) := by
  have divided : p.clamp .zero (.ofNat 100) / .ofNat 100 = p / .ofNat 100 := by
    rw [clamp_of_between low high]
  rw [percentile_eq (isFilled_ofLatencies ls) divided, if_neg (buckets_ne_nil some_)]

/-- A percentile is the latency at its rank or above it by less than one part in 1024: it is
exact below 2048 microseconds, and never below the latency unless the hundredth is zero. -/
theorem percentile_near_ranked (some_ : ls ≠ []) (few : ls.length < 2 ^ 53)
    (tracked : ∀ l ∈ ls, l.micros < trackable) (above : Binary64.zero.lt p = true)
    (high : p.le (.ofNat 100) = true) :
    let t := ofLatencies ls
    let q := p / .ofNat 100
    let v := t.quantile q
    t.percentile p = toMillis v ∧ 1 ≤ t.rank q ∧ t.rank q ≤ ls.length ∧
      ∃ x, ((ls.map fun l => max l.micros 1).insertionSort (· ≤ ·))[t.rank q - 1]? = some x ∧
        if q.isZero then v = lowest x
        else x ≤ v ∧ (x < 2048 → v = x) ∧ (2048 ≤ x → (v : ℚ) < x + x / 1024) := by
  intro t q v
  have low := Binary64.le_of_lt above
  have total : t.count = ls.length := count_ofLatencies ls
  have nonempty : 1 ≤ t.count := total ▸ List.length_pos_iff.mpr some_
  obtain ⟨s, has, short⟩ := hundredth_of_between low high
  have inside : t.rank q ≤ t.count := rank_le (total ▸ few) nonempty has short
  refine ⟨percentile_ofLatencies some_ low high, rank_pos t q, total ▸ inside, ?_⟩
  have cut : ls.map counted = ls.map fun l => max l.micros 1 :=
    List.map_congr_left fun l mem => counted_of_lt (tracked l mem)
  have place := getElem?_spread (rank_pos t q) inside
  rw [spread_eq_ascending, List.getElem?_map, ascending, cut, Option.map_eq_some_iff] at place
  obtain ⟨x, place, bucket⟩ := place
  refine ⟨x, place, ?_⟩
  have reported : v = if q.isZero then lowest x else highest (lowest x) := by
    rw [bucket]
    exact quantile_eq has short
  split
  · next none => rw [reported, if_pos none]
  · next some_ =>
    rw [reported, if_neg some_]
    refine ⟨le_highest x, highest_of_lt, fun large => ?_⟩
    have near : (1024 * highest (lowest x) : ℚ) < 1024 * x + x := by
      exact_mod_cast highest_lt_of_le large
    linarith

theorem percentile_near_ranked_of_three :
    let ls := [⟨4100500⟩, ⟨700⟩, ⟨2049000⟩]
    let t := ofLatencies ls
    let q := Binary64.ofNat 90 / .ofNat 100
    let v := t.quantile q
    t.percentile (.ofNat 90) = toMillis v ∧ 1 ≤ t.rank q ∧ t.rank q ≤ ls.length ∧
      ∃ x, ((ls.map fun l => max l.micros 1).insertionSort (· ≤ ·))[t.rank q - 1]? = some x ∧
        if q.isZero then v = lowest x
        else x ≤ v ∧ (x < 2048 → v = x) ∧ (2048 ≤ x → (v : ℚ) < x + x / 1024) :=
  percentile_near_ranked (List.cons_ne_nil _ _) (by decide) (by decide) (by decide +kernel)
    (by decide +kernel)

/-- The hundredth of the least positive percentage is zero, and 2049 microseconds are reported as
the 2048 at which their bucket starts. -/
theorem percentile_below_ranked :
    let ls := [⟨2049000⟩]
    let p := Binary64.ofDecimal false 5 (-324)
    let t := ofLatencies ls
    Binary64.zero.lt p = true ∧ p.le (.ofNat 100) = true ∧
      ((ls.map fun l => max l.micros 1).insertionSort (· ≤ ·))[t.rank (p / .ofNat 100) - 1]? =
        some 2049 ∧
      t.quantile (p / .ofNat 100) = 2048 := by
  decide +kernel

end

end Trend

end LoadHarness
