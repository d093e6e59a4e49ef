import LoadHarness.Proofs.Metrics.Mean
import LoadHarness.Proofs.Metrics.Percentile

/-!
# Slower latencies

Two equally long lists of latencies are compared pair by pair. If no latency is counted in a later
bucket than its partner, no percentile, extreme or mean of the first trend is above that of the
second. A slower latency is counted in no earlier bucket, but for one gap: the buckets go on
beyond one hour, and a latency that they do not hold counts as one hour.
-/

namespace LoadHarness

open Binary64

namespace Trend

/-! ## Milliseconds -/

/-- Microseconds in milliseconds are rounded once. -/
theorem toMillis_eq {micros : Nat} (few : micros < 2 ^ precision) :
    toMillis micros = .ofRatio false (micros * unit) 1000 := by
  obtain ⟨grid, whole⟩ := ofNat_eq_exact few
  obtain ⟨grid', thousand⟩ := ofNat_eq_exact (n := 1000) (by decide)
  have positive : 1000 * unit ≠ 0 := Nat.ne_of_gt (Nat.mul_pos (by decide) unit_pos)
  rw [toMillis, whole, thousand, finite_div positive]
  refine ofRatio_congr false (Nat.mul_pos (by decide) unit_pos) (by decide) ?_
  ring

theorem hasSteps_toMillis {micros : Nat} (few : micros < 2 ^ precision) :
    HasSteps (toMillis micros) (roundSteps (micros * unit) 1000) := by
  rw [toMillis_eq few]
  refine HasSteps.ofRatio nofun (Nat.lt_of_le_of_lt ?_ (count_lt_ceiling few))
  exact roundSteps_le (gridWidth_dvd_count few) (by decide)
    (Nat.le_mul_of_pos_right _ (by decide))

theorem toMillis_mono {micros micros' : Nat} (le : micros ≤ micros')
    (few : micros' < 2 ^ precision) : (toMillis micros).le (toMillis micros') = true := by
  have left := hasSteps_toMillis (Nat.lt_of_le_of_lt le few)
  refine (left.le_iff (hasSteps_toMillis few)).mpr (roundSteps_mono (by decide) (by decide) ?_)
  exact Nat.mul_le_mul_right 1000 (Nat.mul_le_mul_right unit le)

/-! ## What is reported -/

/-- The extremes of a summary are those of the first and of the last rank. -/
theorem extremes_of_ordered {t : Trend} (ordered : Ordered t.buckets) (some_ : t.buckets ≠ []) :
    t.summary.average = t.mean / .ofNat 1000 ∧
      t.summary.minimum = toMillis (bucketAt 1 t.buckets) ∧
      t.summary.maximum = toMillis (highest (bucketAt t.count t.buckets)) := by
  obtain ⟨buckets⟩ := t
  obtain ⟨last, found⟩ := Option.isSome_iff_exists.mp (List.getLast?_isSome.mpr some_)
  have greatest := bucketAt_count ordered found
  cases buckets with
  | nil => exact absurd rfl some_
  | cons first rest =>
      have least := bucketAt_one ordered
      simp only [summary, List.head?_cons, found, greatest, least, and_self]

section

variable {ls ls' : List Duration} {p : Binary64}

theorem starts_bucketAt (ls : List Duration) {rank : Nat} (positive : 1 ≤ rank) :
    Starts (bucketAt rank (ofLatencies ls).buckets) := by
  rcases Nat.lt_or_ge (ofLatencies ls).count rank with beyond | inside
  · rw [bucketAt_of_beyond beyond]
    decide
  · obtain ⟨b, mem, same⟩ := exists_bucketAt positive inside
    exact same ▸ (ordered_ofLatencies ls).starts b mem

/-- What is reported is a number of few digits. -/
theorem highest_bucketAt_lt (ls : List Duration) {rank : Nat} (positive : 1 ≤ rank) :
    highest (bucketAt rank (ofLatencies ls).buckets) < 2 ^ precision := by
  rcases Nat.lt_or_ge (ofLatencies ls).count rank with beyond | inside
  · rw [bucketAt_of_beyond beyond]
    decide
  · obtain ⟨b, mem, same⟩ := exists_bucketAt positive inside
    obtain ⟨l, -, same'⟩ := exists_of_mem mem
    rw [← same, ← same']
    exact Nat.lt_trans (highest_counted_lt l) (by decide)

/-- So is a quantile. -/
theorem quantile_lt (ls : List Duration) {q : Binary64} {s : Nat} (has : HasSteps q s)
    (short : s ≤ unit) : (ofLatencies ls).quantile q < 2 ^ precision := by
  refine Nat.lt_of_le_of_lt ?_ (highest_bucketAt_lt ls (rank_pos (ofLatencies ls) q))
  rw [quantile_eq has short]
  split
  · exact le_highest_self _
  · exact Nat.le_refl _

/-- The rank of a quantile depends on the number of latencies alone. -/
theorem rank_congr {t t' : Trend} (same : t.count = t'.count) (q : Binary64) :
    t.rank q = t'.rank q := by
  rw [rank, rank, same]

/-- A quantile of latencies in no earlier buckets is not less. -/
theorem quantile_le_of_forall₂ (paired : List.Forall₂ NotLater ls ls') {q : Binary64} {s : Nat}
    (has : HasSteps q s) (short : s ≤ unit) :
    (ofLatencies ls).quantile q ≤ (ofLatencies ls').quantile q := by
  have same : (ofLatencies ls).count = (ofLatencies ls').count := by
    rw [count_ofLatencies, count_ofLatencies, paired.length_eq]
  have positive := rank_pos (ofLatencies ls') q
  have later := bucketAt_le_of_forall₂ paired positive
  rw [quantile_eq has short, quantile_eq has short, rank_congr same]
  split
  · exact later
  · exact (starts_bucketAt ls positive).highest_mono (starts_bucketAt ls' positive) later

/-- A percentile of latencies in no earlier buckets is not less. -/
theorem percentile_le_of_forall₂ (paired : List.Forall₂ NotLater ls ls') (some_ : ls ≠ [])
    (low : Binary64.zero.le p = true) (high : p.le (.ofNat 100) = true) :
    ((ofLatencies ls).percentile p).le ((ofLatencies ls').percentile p) = true := by
  have some' := ne_nil_of_paired paired some_
  obtain ⟨s, has, short⟩ := hundredth_of_between low high
  rw [percentile_ofLatencies some_ low high, percentile_ofLatencies some' low high]
  exact toMillis_mono (quantile_le_of_forall₂ paired has short) (quantile_lt ls' has short)

/-- So are the extremes. -/
theorem extremes_mono (paired : List.Forall₂ NotLater ls ls') (some_ : ls ≠ []) :
    (ofLatencies ls).summary.minimum.le (ofLatencies ls').summary.minimum = true ∧
      (ofLatencies ls).summary.maximum.le (ofLatencies ls').summary.maximum = true := by
  have some' := ne_nil_of_paired paired some_
  have positive : 1 ≤ ls.length := List.length_pos_iff.mpr some_
  have positive' : 1 ≤ ls'.length := List.length_pos_iff.mpr some'
  obtain ⟨-, least, greatest⟩ :=
    extremes_of_ordered (ordered_ofLatencies ls) (buckets_ne_nil some_)
  obtain ⟨-, least', greatest'⟩ :=
    extremes_of_ordered (ordered_ofLatencies ls') (buckets_ne_nil some')
  rw [least, greatest, least', greatest', count_ofLatencies, count_ofLatencies]
  constructor
  · refine toMillis_mono (bucketAt_le_of_forall₂ paired (Nat.le_refl 1)) ?_
    exact Nat.lt_of_le_of_lt (le_highest_self _) (highest_bucketAt_lt ls' (Nat.le_refl 1))
  · refine toMillis_mono ?_ (highest_bucketAt_lt ls' positive')
    refine (starts_bucketAt ls positive).highest_mono (starts_bucketAt ls' positive') ?_
    rw [← paired.length_eq]
    exact bucketAt_le_of_forall₂ paired positive

/-! ## Averages -/

/-- The mean of the middles in milliseconds, rounded only once. -/
def exactAverage (t : Trend) : Binary64 :=
  .ofRatio false (middles t.buckets * unit) (t.count * 1000)

/-- Each latency adds the middle of its bucket. -/
theorem middles_ofLatencies (ls : List Duration) :
    middles (ofLatencies ls).buckets = (ls.map fun l => middle (lowest (counted l))).sum := by
  rw [middles_eq_spread, ((spread_ofLatencies ls).map middle).sum_eq, List.map_map]
  rfl

/-- The exact average is not less for latencies in no earlier buckets. -/
theorem exactAverage_mono (paired : List.Forall₂ NotLater ls ls') (some_ : ls ≠ []) :
    (ofLatencies ls).exactAverage.le (ofLatencies ls').exactAverage = true := by
  have positive : 1 ≤ ls.length := List.length_pos_iff.mpr some_
  rw [exactAverage, exactAverage, count_ofLatencies, count_ofLatencies, ← paired.length_eq,
    middles_ofLatencies, middles_ofLatencies]
  refine ofRatio_le (by omega) (by omega) (Nat.mul_le_mul_right _ (Nat.mul_le_mul_right unit ?_))
  refine List.Forall₂.sum_le_sum (List.forall₂_map_left_iff.mpr (List.forall₂_map_right_iff.mpr ?_))
  exact paired.imp fun l l' le => (starts_lowest _).middle_mono (starts_lowest _) le

/-- The average is the mean in milliseconds, in range as the mean is. -/
theorem hasSteps_average (some_ : ls ≠ []) (few : ls.length < 2 ^ manyBits) :
    HasSteps (ofLatencies ls).summary.average
      (roundSteps (meanSteps ls.length (ofLatencies ls).buckets) 1000) := by
  have ordered := ordered_ofLatencies ls
  have positive : 0 < ls.length := List.length_pos_iff.mpr some_
  have total := count_ofLatencies ls
  obtain ⟨average, -⟩ := extremes_of_ordered ordered (buckets_ne_nil some_)
  have tracked : ∀ b ∈ (ofLatencies ls).buckets, middle b.1 ≤ trackable := by
    intro b mem
    obtain ⟨l, -, same⟩ := exists_of_mem mem
    rw [← same]
    exact Nat.le_trans (middle_le_highest _) (Nat.le_of_lt (highest_counted_lt l))
  have mean : HasSteps (ofLatencies ls).mean (meanSteps ls.length (ofLatencies ls).buckets) := by
    rw [Trend.mean, total]
    exact hasSteps_mean ordered positive few (Nat.le_of_eq total) tracked
  have same : roundSteps (meanSteps ls.length (ofLatencies ls).buckets * unit) (1000 * unit) =
      roundSteps (meanSteps ls.length (ofLatencies ls).buckets) 1000 :=
    roundSteps_congr (Nat.mul_pos (by decide) unit_pos) (by decide) (by ring)
  rw [average, ← same]
  refine mean.div (HasSteps.ofNat (by decide)) (Nat.mul_pos (by decide) unit_pos) ?_
  rw [same]
  refine Nat.lt_of_le_of_lt ?_ mean.grid.1
  exact roundSteps_le mean.grid.2 (by decide) (Nat.le_mul_of_pos_right _ (by decide))

/-- The average is not less for latencies in no earlier buckets, if there are not too many. -/
theorem average_mono (paired : List.Forall₂ NotLater ls ls') (some_ : ls ≠ [])
    (few : ls.length < 2 ^ manyBits) :
    (ofLatencies ls).summary.average.le (ofLatencies ls').summary.average = true := by
  have few' : ls'.length < 2 ^ manyBits := paired.length_eq ▸ few
  have mean := meanSteps_le_of_forall₂ paired [] few (by rw [List.append_nil])
  rw [List.append_nil, List.append_nil] at mean
  have left := hasSteps_average some_ few
  have right := hasSteps_average (ne_nil_of_paired paired some_) few'
  rw [← paired.length_eq] at right
  refine (left.le_iff right).mpr (roundSteps_mono (by decide) (by decide) ?_)
  exact Nat.mul_le_mul_right 1000 mean

/-- With many more latencies the rounding of the mean hides that one of them is slower, and may
even turn the order around. -/
theorem average_less_of_many :
    let others := List.replicate (24568429590530 + 1) ⟨1683000⟩
    (ofLatencies (⟨1684000⟩ :: others)).summary.average.lt
      (ofLatencies (⟨1683000⟩ :: others)).summary.average = true := by
  have fast (n : Nat) : ofLatencies (⟨1683000⟩ :: List.replicate (n + 1) ⟨1683000⟩) =
      ⟨[(1683, n + 2)]⟩ :=
    congrArg Trend.mk (buckets_replicate ⟨1683000⟩ (n + 1))
  have slow (n : Nat) : ofLatencies (⟨1684000⟩ :: List.replicate (n + 1) ⟨1683000⟩) =
      ⟨[(1683, n + 1), (1684, 1)]⟩ := by
    have others := congrArg Trend.mk (buckets_replicate ⟨1683000⟩ n)
    rw [ofLatencies_cons]
    exact congrArg (record · ⟨1684000⟩) others
  intro others
  rw [fast, slow]
  decide +kernel

/-! ## Slower latencies -/

/-- A latency beyond the bucket of one hour that has a bucket nevertheless. -/
def BeyondHour (l : Duration) : Prop := highest (lowest saturated) < l.micros ∧ l.micros < trackable

instance (l : Duration) : Decidable (BeyondHour l) := inferInstanceAs (Decidable (_ ∧ _))

/-- A slower latency is counted in no earlier bucket, unless it has none and the other one has a
bucket beyond that of one hour. -/
theorem notLater_iff {l l' : Duration} (le : l.nanos ≤ l'.nanos) :
    NotLater l l' ↔ ¬ (BeyondHour l ∧ trackable ≤ l'.micros) := by
  have micros : l.micros ≤ l'.micros := Nat.div_le_div_right le
  have hour (m : Duration) (beyond : trackable ≤ m.micros) : counted m = saturated :=
    if_neg (Nat.not_lt.mpr (Nat.le_trans beyond (Nat.le_max_left _ _)))
  rcases Nat.lt_or_ge l'.micros trackable with tracked' | untracked'
  · have tracked := Nat.lt_of_le_of_lt micros tracked'
    rw [NotLater, counted_of_lt tracked, counted_of_lt tracked']
    refine iff_of_true (lowest_mono (max_le_max_right 1 micros)) fun gap => ?_
    exact Nat.not_lt.mpr gap.2 tracked'
  rcases Nat.lt_or_ge l.micros trackable with tracked | untracked
  · have some_ : 1 ≤ highest (lowest saturated) := by decide
    rw [NotLater, counted_of_lt tracked, hour l' untracked', lowest_le_iff, BeyondHour]
    omega
  · rw [NotLater, hour l untracked, hour l' untracked']
    exact iff_of_true (Nat.le_refl _) fun gap => Nat.not_lt.mpr untracked gap.1.2

/-- Slower latencies do not lower what is reported, as long as no latency that has a bucket beyond
the one of one hour is replaced by a latency that has none. -/
theorem slower_not_less
    (slower : List.Forall₂ (fun l l' => l.nanos ≤ l'.nanos ∧
      ¬ (BeyondHour l ∧ trackable ≤ l'.micros)) ls ls') :
    let t := ofLatencies ls
    let t' := ofLatencies ls'
    (∀ p, Binary64.zero.le p = true → p.le (.ofNat 100) = true →
      (t.percentile p).le (t'.percentile p) = true) ∧
      t.summary.minimum.le t'.summary.minimum = true ∧
      t.summary.maximum.le t'.summary.maximum = true ∧
      t.exactAverage.le t'.exactAverage = true ∧
      (ls.length < 2 ^ 32 → t.summary.average.le t'.summary.average = true) := by
  intro t t'
  have paired : List.Forall₂ NotLater ls ls' :=
    slower.imp fun l l' order => (notLater_iff order.1).mpr order.2
  by_cases none : ls = []
  · subst none
    cases paired
    have zero : Binary64.zero.le .zero = true := by decide +kernel
    have average : (ofLatencies []).exactAverage.le (ofLatencies []).exactAverage = true := by
      decide +kernel
    exact ⟨fun _ _ _ => zero, zero, zero, average, fun _ => zero⟩
  · obtain ⟨least, greatest⟩ := extremes_mono paired none
    refine ⟨fun p low high => ?_, least, greatest, exactAverage_mono paired none, ?_⟩
    · exact percentile_le_of_forall₂ paired none low high
    · exact average_mono paired none

theorem slower_not_less_of_two :
    let t := ofLatencies [⟨4000000000000⟩, ⟨1500000⟩]
    let t' := ofLatencies [⟨4200000000000⟩, ⟨1500999⟩]
    (∀ p, Binary64.zero.le p = true → p.le (.ofNat 100) = true →
      (t.percentile p).le (t'.percentile p) = true) ∧
      t.summary.minimum.le t'.summary.minimum = true ∧
      t.summary.maximum.le t'.summary.maximum = true ∧
      t.exactAverage.le t'.exactAverage = true ∧
      (2 < 2 ^ 32 → t.summary.average.le t'.summary.average = true) :=
  slower_not_less (.cons (by decide) (.cons (by decide) .nil))

/-- A latency of 4000 seconds is in its own bucket, one of 5000 seconds counts as one hour. -/
theorem slower_less_beyond_hour :
    let l : Duration := ⟨4000000000000⟩
    let l' : Duration := ⟨5000000000000⟩
    l.nanos ≤ l'.nanos ∧
      (ofLatencies [l]).summary.maximum.le (ofLatencies [l']).summary.maximum = false := by
  decide +kernel

end

end Trend

end LoadHarness
