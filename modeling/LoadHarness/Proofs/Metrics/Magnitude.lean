import LoadHarness.Proofs.Metrics.Domination

/-!
# Magnitudes of what is observed

Every number that is computed from numbers that are not negative keeps within a limit, and the
limit is itself a number of the format. Rounding does not take a result beyond such a limit, so no
operation that has one ends with an infinity or with something that is no number, however often it
is rounded on the way. The rates, percentiles, extremes and means of a run have limits as long as
their observations can be counted in 64 binary digits.
-/

namespace LoadHarness

namespace Binary64

/-- A number that is not negative and has at most so many least steps. -/
def AtMost (x : Binary64) (most : Nat) : Prop := ∃ n, HasSteps x n ∧ n ≤ most

theorem HasSteps.atMost {x : Binary64} {n most : Nat} (has : HasSteps x n) (le : n ≤ most) :
    AtMost x most := ⟨n, has, le⟩

/-- A rounded quotient keeps within the numbers of the format that the exact one keeps within. -/
theorem roundSteps_le_of_onGrid {n d most : Nat} (grid : OnGrid most) (positive : 0 < d)
    (fits : n ≤ most * d) : roundSteps n d ≤ most ∧ roundSteps n d < ceiling := by
  have le := roundSteps_le grid.2 positive fits
  exact ⟨le, Nat.lt_of_le_of_lt le grid.1⟩

namespace AtMost

variable {x y : Binary64} {a b n most : Nat}

theorem hasSteps (limited : AtMost x most) : ∃ n, HasSteps x n := by
  obtain ⟨n, has, -⟩ := limited
  exact ⟨n, has⟩

theorem le (limited : AtMost x most) (has : HasSteps y most) : x.le y = true := by
  obtain ⟨n, own, le⟩ := limited
  exact (own.le_iff has).mpr le

theorem zero (most : Nat) : AtMost .zero most := HasSteps.zero.atMost (Nat.zero_le most)

theorem ofNat (le : n ≤ most) (grid : OnGrid (most * unit)) : AtMost (.ofNat n) (most * unit) := by
  have fits : n * unit ≤ most * unit * 1 := by
    rw [Nat.mul_one]
    exact Nat.mul_le_mul_right unit le
  obtain ⟨le, range⟩ := roundSteps_le_of_onGrid grid Nat.one_pos fits
  have has : HasSteps (ofRatio false (n * unit) 1) (roundSteps (n * unit) 1) :=
    HasSteps.ofRatio nofun range
  exact has.atMost le

theorem add (left : AtMost x a) (right : AtMost y b) (grid : OnGrid most) (fits : a + b ≤ most) :
    AtMost (x + y) most := by
  obtain ⟨m, hasLeft, leLeft⟩ := left
  obtain ⟨n, hasRight, leRight⟩ := right
  have fits : m + n ≤ most * 1 := by omega
  obtain ⟨le, range⟩ := roundSteps_le_of_onGrid grid Nat.one_pos fits
  exact (hasLeft.add hasRight range).atMost le

theorem mul (left : AtMost x a) (right : AtMost y b) (grid : OnGrid most)
    (fits : a * b ≤ most * unit) : AtMost (x * y) most := by
  obtain ⟨m, hasLeft, leLeft⟩ := left
  obtain ⟨n, hasRight, leRight⟩ := right
  have fits : m * n ≤ most * unit := Nat.le_trans (Nat.mul_le_mul leLeft leRight) fits
  obtain ⟨le, range⟩ := roundSteps_le_of_onGrid grid unit_pos fits
  exact (hasLeft.mul hasRight range).atMost le

/-- Division by at least one keeps a limit. -/
theorem div (left : AtMost x most) (right : HasSteps y n) (grid : OnGrid most) (one : unit ≤ n) :
    AtMost (x / y) most := by
  obtain ⟨m, has, le⟩ := left
  have positive : 0 < n := Nat.lt_of_lt_of_le unit_pos one
  obtain ⟨le, range⟩ := roundSteps_le_of_onGrid grid positive (Nat.mul_le_mul le one)
  exact (has.div right positive range).atMost le

/-- The quotient of a number by one that is not less is at most one. -/
theorem div_self (left : AtMost x n) (right : HasSteps y n) (positive : 0 < n) :
    AtMost (x / y) unit := by
  obtain ⟨m, has, le⟩ := left
  have fits : m * unit ≤ unit * n := by
    rw [Nat.mul_comm unit]
    exact Nat.mul_le_mul_right unit le
  obtain ⟨le, range⟩ := roundSteps_le_of_onGrid onGrid_unit positive fits
  exact (has.div right positive range).atMost le

end AtMost

/-! ## Counts of 64 binary digits -/

section

variable {n : Nat} (few : n < Word.bound64)

include few

/-- A count of 64 binary digits is not out of range. -/
theorem hasSteps_count : HasSteps (.ofNat n) (roundSteps (n * unit) 1) := by
  have digits : Word.bound64 = 2 ^ 64 := by decide
  have range : Word.bound64 ≤ 2 ^ countBits := by
    rw [digits]
    exact Nat.pow_le_pow_right (by decide) (by decide)
  obtain ⟨grid, same⟩ := ofNat_eq (Nat.lt_of_lt_of_le few range)
  exact ⟨false, grid, same, nofun⟩

theorem atMost_count : AtMost (.ofNat n) (Word.bound64 * unit) := by
  have digits : Word.bound64 = 1 * 2 ^ 64 := by decide
  refine AtMost.ofNat (Nat.le_of_lt few) ?_
  rw [digits]
  exact onGrid_shifted (by decide) (by decide)

omit few in
/-- A count of something is at least one, also if it is rounded. -/
theorem unit_le_count (some_ : 0 < n) : unit ≤ roundSteps (n * unit) 1 := by
  refine le_roundSteps gridWidth_dvd_unit Nat.one_pos ?_
  rw [Nat.mul_one]
  exact Nat.le_mul_of_pos_left unit some_

end

end Binary64

open Binary64

/-! ## Rates -/

/-- A rate is at most one: both counts are rounded, but not past each other. -/
theorem Rate.ratio_atMost {r : Rate} (few : r.total < Word.bound64) :
    AtMost r.ratio Binary64.unit := by
  rw [Rate.ratio]
  split
  · exact AtMost.zero _
  · next some_ =>
    have hits : r.hits ≤ r.total := Nat.le_add_right _ _
    have total := unit_le_count (Nat.pos_of_ne_zero some_)
    have counted := hasSteps_count (Nat.lt_of_le_of_lt hits few)
    refine (counted.atMost ?_).div_self (hasSteps_count few) (Nat.lt_of_lt_of_le unit_pos total)
    exact roundSteps_mono Nat.one_pos Nat.one_pos
      (Nat.mul_le_mul_right 1 (Nat.mul_le_mul_right Binary64.unit hits))

namespace Trend

variable {ls : List Duration} {n : Nat} {b : Nat × Nat} {buckets : List (Nat × Nat)}

/-! ## Percentiles and extremes -/

/-- A percentile is a finite number that is not negative, also that of no latencies. -/
theorem percentile_hasSteps (ls : List Duration) {p : Binary64}
    (low : Binary64.zero.le p = true) (high : p.le (.ofNat 100) = true) :
    ∃ n, HasSteps ((ofLatencies ls).percentile p) n := by
  by_cases none : ls = []
  · subst none
    exact ⟨0, HasSteps.zero⟩
  · obtain ⟨s, has, short⟩ := hundredth_of_between low high
    rw [percentile_ofLatencies none low high]
    exact ⟨_, hasSteps_toMillis (quantile_lt ls has short)⟩

/-- So are the extremes. -/
theorem extremes_hasSteps (ls : List Duration) :
    (∃ n, HasSteps (ofLatencies ls).summary.minimum n) ∧
      ∃ n, HasSteps (ofLatencies ls).summary.maximum n := by
  by_cases none : ls = []
  · subst none
    exact ⟨⟨0, HasSteps.zero⟩, 0, HasSteps.zero⟩
  · obtain ⟨-, minimum, maximum⟩ :=
      extremes_of_ordered (ordered_ofLatencies ls) (buckets_ne_nil none)
    have last : 1 ≤ (ofLatencies ls).count :=
      count_ofLatencies ls ▸ List.length_pos_iff.mpr none
    have first := Nat.lt_of_le_of_lt (le_highest_self _) (highest_bucketAt_lt ls (Nat.le_refl 1))
    rw [minimum, maximum]
    exact ⟨⟨_, hasSteps_toMillis first⟩, _, hasSteps_toMillis (highest_bucketAt_lt ls last)⟩

/-! ## Means -/

/-- The binary digits of the product of a middle and a count. -/
def productBits : Nat := 96

/-- What is added for a bucket has a limit: the product of the greatest middle and the greatest
count, and the number of latencies is at least one. -/
theorem share_atMost (few : n < Word.bound64) (some_ : 0 < n) (tracked : middle b.1 ≤ trackable)
    (held : b.2 ≤ n) :
    AtMost (.ofNat (middle b.1) * .ofNat b.2 / .ofNat n) (2 ^ productBits * Binary64.unit) := by
  have digits : trackable = 1 * 2 ^ 32 := by decide
  have middles : AtMost (.ofNat (middle b.1)) (trackable * Binary64.unit) := by
    refine AtMost.ofNat tracked ?_
    rw [digits]
    exact onGrid_shifted (by decide) (by decide)
  have grid : OnGrid (1 * 2 ^ productBits * Binary64.unit) :=
    onGrid_shifted (by decide) (by decide)
  rw [Nat.one_mul] at grid
  have product : AtMost (.ofNat (middle b.1) * .ofNat b.2) (2 ^ productBits * Binary64.unit) := by
    refine middles.mul (atMost_count (Nat.lt_of_le_of_lt held few)) grid (Nat.le_of_eq ?_)
    have powers : trackable * Word.bound64 = 2 ^ productBits := by decide
    rw [← powers]
    ring
  exact product.div (hasSteps_count few) grid (unit_le_count some_)

/-- There are not more buckets than values that have one. -/
theorem Ordered.length_le_trackable (ordered : Ordered buckets)
    (tracked : ∀ b ∈ buckets, b.1 < trackable) : buckets.length ≤ trackable := by
  have nodup : (buckets.map (·.1)).Nodup :=
    (List.pairwise_map.mpr ordered.ascending).imp Nat.ne_of_lt
  have subset : buckets.map (·.1) ⊆ List.range trackable := by
    intro key mem
    obtain ⟨b, here, rfl⟩ := List.mem_map.mp mem
    exact List.mem_range.mpr (tracked b here)
  have short := (nodup.subperm subset).length_le
  rwa [List.length_map, List.length_range] at short

/-- A sum has as many times the limit of one bucket as there are buckets, and with few buckets
this is a number of the format. -/
theorem sum_atMost (few : n < Word.bound64) (some_ : 0 < n)
    (tracked : ∀ b ∈ buckets, middle b.1 ≤ trackable) (held : ∀ b ∈ buckets, b.2 ≤ n)
    (short : buckets.length < 2 ^ precision) :
    AtMost (buckets.foldl
      (fun sum b => sum + .ofNat (middle b.1) * .ofNat b.2 / .ofNat n) .zero)
      (buckets.length * 2 ^ productBits * Binary64.unit) := by
  induction buckets using List.reverseRecOn with
  | nil => exact AtMost.zero _
  | append_singleton buckets last ih =>
      have grid : OnGrid ((buckets ++ [last]).length * 2 ^ productBits * Binary64.unit) :=
        onGrid_shifted short (by decide)
      have mem : last ∈ buckets ++ [last] := List.mem_append_right buckets List.mem_cons_self
      have before := ih (fun b mem => tracked b (List.mem_append_left [last] mem))
        (fun b mem => held b (List.mem_append_left [last] mem))
        (Nat.lt_of_le_of_lt (by rw [List.length_append]; exact Nat.le_add_right _ _) short)
      have added := share_atMost few some_ (tracked last mem) (held last mem)
      rw [List.foldl_append, List.foldl_cons, List.foldl_nil]
      refine before.add added grid (Nat.le_of_eq ?_)
      rw [List.length_append, List.length_singleton]
      ring

/-- No bucket holds more latencies than there are. -/
theorem held_le (mem : b ∈ buckets) : b.2 ≤ count ⟨buckets⟩ := by
  obtain ⟨before, after, rfl⟩ := List.append_of_mem mem
  have total : count ⟨b :: after⟩ = b.2 + count ⟨after⟩ := rfl
  rw [count_append, total]
  omega

/-- The average of as many latencies as can be counted is a finite number that is not negative. -/
theorem average_hasSteps (few : ls.length < Word.bound64) :
    ∃ n, HasSteps (ofLatencies ls).summary.average n := by
  by_cases none : ls = []
  · subst none
    exact ⟨0, HasSteps.zero⟩
  · have ordered := ordered_ofLatencies ls
    have total := count_ofLatencies ls
    obtain ⟨average, -⟩ := extremes_of_ordered ordered (buckets_ne_nil none)
    have tracked : ∀ b ∈ (ofLatencies ls).buckets, highest b.1 < trackable := by
      intro b mem
      obtain ⟨l, -, same⟩ := exists_of_mem mem
      exact same ▸ highest_counted_lt l
    have short : (ofLatencies ls).buckets.length < 2 ^ precision :=
      Nat.lt_of_le_of_lt
        (ordered.length_le_trackable fun b mem =>
          Nat.lt_of_le_of_lt (le_highest_self b.1) (tracked b mem))
        (by decide)
    have mean := sum_atMost few (List.length_pos_iff.mpr none)
      (fun b mem => Nat.le_trans (middle_le_highest b.1) (Nat.le_of_lt (tracked b mem)))
      (fun b mem => total ▸ held_le mem) short
    have one : Binary64.unit ≤ 1000 * Binary64.unit := Nat.le_mul_of_pos_left _ (by decide)
    rw [average, Trend.mean, total]
    exact (mean.div (HasSteps.ofNat (by decide)) (onGrid_shifted short (by decide)) one).hasSteps

end Trend

end LoadHarness
