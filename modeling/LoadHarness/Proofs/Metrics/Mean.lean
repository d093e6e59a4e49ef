import LoadHarness.Proofs.Binary64.Error
import LoadHarness.Proofs.Binary64.Order
import LoadHarness.Proofs.Metrics.Ranking

/-!
# Means

A mean adds the shares of the buckets one after the other, in ascending order, with a rounding at
each step. It is within a few grains of the exact mean. Moreover it is monotone: what is added
after the buckets in which two trends differ is the same, and the difference itself is greater
than what few roundings can hide as long as there are not too many latencies.
-/

namespace LoadHarness

open Binary64

namespace Trend

variable {n sum sum' : Nat} {b b' : Nat × Nat} {buckets : List (Nat × Nat)}

/-! ## Exact sums -/

/-- What a bucket adds to the sum of the middles. -/
def weight (b : Nat × Nat) : Nat := middle b.1 * b.2

/-- The sum of the middles of all latencies. -/
def middles (buckets : List (Nat × Nat)) : Nat := (buckets.map weight).sum

theorem middles_append (buckets later : List (Nat × Nat)) :
    middles (buckets ++ later) = middles buckets + middles later := by
  simp only [middles, List.map_append, List.sum_append]

theorem count_append (buckets later : List (Nat × Nat)) :
    count ⟨buckets ++ later⟩ = count ⟨buckets⟩ + count ⟨later⟩ := by
  rw [← length_spread, ← length_spread, ← length_spread, ← List.length_append, spread, spread,
    spread, List.flatMap_append]

theorem middles_eq_spread (buckets : List (Nat × Nat)) :
    middles buckets = ((spread buckets).map middle).sum := by
  induction buckets with
  | nil => rfl
  | cons first rest ih =>
      rw [middles, List.map_cons, List.sum_cons, ← middles, ih, spread_cons, List.map_append,
        List.sum_append, List.map_replicate, List.sum_replicate, smul_eq_mul, weight, Nat.mul_comm]

/-- The middles of latencies are at most as often the greatest of them. -/
theorem middles_le {most : Nat} (bound : ∀ b ∈ buckets, middle b.1 ≤ most) :
    middles buckets ≤ most * count ⟨buckets⟩ := by
  induction buckets with
  | nil => exact Nat.zero_le _
  | cons first rest ih =>
      have here := Nat.mul_le_mul_right first.2 (bound first List.mem_cons_self)
      have later := ih fun b mem => bound b (List.mem_cons_of_mem first mem)
      have total : count ⟨first :: rest⟩ = first.2 + count ⟨rest⟩ := rfl
      rw [total, Nat.mul_add]
      exact Nat.add_le_add here later

/-- The share of a bucket in the mean of `n` latencies, in least steps. -/
def share (n : Nat) (b : Nat × Nat) : Nat := roundSteps (roundSteps (weight b * unit) 1) n

/-- Adds the share of a bucket. -/
def addShare (n sum : Nat) (b : Nat × Nat) : Nat := roundSteps (sum + share n b) 1

/-- The least steps of a mean. -/
def meanSteps (n : Nat) (buckets : List (Nat × Nat)) : Nat := buckets.foldl (addShare n) 0

theorem meanSteps_append (n : Nat) (buckets later : List (Nat × Nat)) :
    meanSteps n (buckets ++ later) = later.foldl (addShare n) (meanSteps n buckets) :=
  List.foldl_append ..

theorem share_of_weight (none : weight b = 0) : share n b = 0 := by
  simp only [share, none, Nat.zero_mul, HasSteps.roundSteps_zero]

theorem addShare_mono (sums : sum ≤ sum') (shares : share n b ≤ share n b') :
    addShare n sum b ≤ addShare n sum' b' :=
  roundSteps_mono Nat.one_pos Nat.one_pos
    (Nat.mul_le_mul_right 1 (Nat.add_le_add sums shares))

theorem foldl_addShare_mono (sums : sum ≤ sum') (buckets : List (Nat × Nat)) :
    buckets.foldl (addShare n) sum ≤ buckets.foldl (addShare n) sum' := by
  induction buckets generalizing sum sum' with
  | nil => exact sums
  | cons first rest ih => exact ih (addShare_mono sums (Nat.le_refl _))

/-- An empty bucket would change nothing. -/
theorem addShare_of_empty (grid : gridWidth sum ∣ sum) (key : Nat) :
    addShare n sum (key, 0) = sum := by
  rw [addShare, share_of_weight rfl, Nat.add_zero, roundSteps_of_dvd grid]

theorem gridWidth_dvd_meanSteps (n : Nat) (buckets : List (Nat × Nat)) :
    gridWidth (meanSteps n buckets) ∣ meanSteps n buckets := by
  cases buckets using List.reverseRecOn with
  | nil =>
      rw [meanSteps, List.foldl_nil]
      exact Nat.dvd_zero _
  | append_singleton buckets last =>
      rw [meanSteps_append, List.foldl_cons, List.foldl_nil, addShare]
      exact gridWidth_dvd_roundSteps _ 1

/-! ## Rounding errors -/

/-- The most latencies for which means are looked at. -/
def manyBits : Nat := 32

section

variable (positive : 0 < n) (few : n < 2 ^ manyBits)

include positive few in
/-- A share is rounded twice. -/
theorem share_within (b : Nat × Nat) : Within 2 (weight b * unit) (share n b * n) := by
  rcases Nat.eq_zero_or_pos (weight b) with none | some_
  · rw [none, share_of_weight none, Nat.zero_mul, Nat.zero_mul]
    exact (Within.refl 0).mono (Nat.zero_le 2)
  · have least : unit ≤ roundSteps (weight b * unit) 1 := by
      refine le_roundSteps gridWidth_dvd_unit Nat.one_pos ?_
      rw [Nat.mul_one]
      exact Nat.le_mul_of_pos_left unit some_
    have normal : 2 ^ 52 * n ≤ roundSteps (weight b * unit) 1 := by
      refine Nat.le_trans ?_ least
      calc
        2 ^ 52 * n ≤ 2 ^ 52 * 2 ^ manyBits := Nat.mul_le_mul_left _ (Nat.le_of_lt few)
        _ = 2 ^ (52 + manyBits) := (Nat.pow_add ..).symm
        _ ≤ unit := by
          rw [unit_eq]
          exact Nat.pow_le_pow_right (by decide) (by decide)
    have product := (Within.refl _).round (Nat.zero_le _) (roundSteps_bounds (weight b * unit))
    exact product.round (by decide) (roundSteps_mul_bounds positive normal)

include positive few in
/-- A sum is rounded once for each share. -/
theorem addShare_within {k x : Nat} (has : Within k x (sum * n)) (two : 2 ≤ k) (able : k ≤ 2 ^ 52)
    (b : Nat × Nat) : Within (k + 1) (x + weight b * unit) (addShare n sum b * n) := by
  have summands := has.add ((share_within positive few b).mono two)
  rw [← Nat.add_mul] at summands
  refine summands.round able ?_
  have rounded := roundSteps_bounds (sum + share n b)
  rw [addShare]
  constructor
  · calc
      2 ^ precision * (roundSteps (sum + share n b) 1 * n)
        = 2 ^ precision * roundSteps (sum + share n b) 1 * n := (Nat.mul_assoc ..).symm
      _ ≤ (2 ^ precision + 1) * (sum + share n b) * n := Nat.mul_le_mul_right n rounded.1
      _ = (2 ^ precision + 1) * ((sum + share n b) * n) := Nat.mul_assoc ..
  · calc
      (2 ^ precision - 1) * ((sum + share n b) * n)
        = (2 ^ precision - 1) * (sum + share n b) * n := (Nat.mul_assoc ..).symm
      _ ≤ 2 ^ precision * roundSteps (sum + share n b) 1 * n := Nat.mul_le_mul_right n rounded.2
      _ = 2 ^ precision * (roundSteps (sum + share n b) 1 * n) := Nat.mul_assoc ..

include positive few in
/-- A mean is off by at most one grain a bucket, and two more. -/
theorem meanSteps_within (able : buckets.length + 2 ≤ 2 ^ 52) :
    Within (buckets.length + 2) (middles buckets * unit) (meanSteps n buckets * n) := by
  induction buckets using List.reverseRecOn with
  | nil =>
      rw [middles, meanSteps, List.map_nil, List.sum_nil, List.foldl_nil, Nat.zero_mul,
        Nat.zero_mul]
      exact (Within.refl 0).mono (Nat.zero_le _)
  | append_singleton buckets last ih =>
      rw [List.length_append, List.length_singleton] at able ⊢
      have before := ih (by omega)
      have added := addShare_within positive few before (Nat.le_add_left 2 _) (by omega) last
      rw [meanSteps_append, middles_append, Nat.add_mul, List.foldl_cons, List.foldl_nil,
        Nat.add_right_comm]
      have single : middles [last] = weight last := Nat.add_zero _
      rw [single]
      exact added

/-! ## One value in the next bucket -/

section

variable {low : Nat}

include few in
/-- With one value moved to the next bucket the exact sum rises by more than the roundings of both
sums can hide. -/
theorem add_moved_le (starts : Starts low) {c d p : Nat} (fits : p + (c + d + 1) ≤ n)
    (before : sum * n ≤ 2 * (middle (low + width low) * p * unit)) :
    addShare n (addShare n sum (low, c + 1)) (low + width low, d) ≤
      addShare n (addShare n sum (low, c)) (low + width low, d + 1) := by
  have positive : 0 < n := by omega
  have start : Within 2 (sum * n) (sum * n) := (Within.refl _).mono (Nat.zero_le 2)
  have left := addShare_within positive few start (Nat.le_refl 2) (by decide) (low, c + 1)
  have left := addShare_within positive few left (by decide) (by decide) (low + width low, d)
  have right := addShare_within positive few start (Nat.le_refl 2) (by decide) (low, c)
  have right := addShare_within positive few right (by decide) (by decide)
    (low + width low, d + 1)
  refine Nat.le_of_mul_le_mul_right (left.le_of_gap right ?_) positive
  have rise := Nat.mul_le_mul_right unit (starts.middle_mono starts.next (Nat.le_add_right _ _))
  have gap := Nat.mul_le_mul_right unit (middle_gap starts)
  have here (k : Nat) : weight (low, k) * unit = k * (middle low * unit) := by
    rw [weight]
    ring
  have next (k : Nat) :
      weight (low + width low, k) * unit = k * (middle (low + width low) * unit) := by
    rw [weight]
    ring
  have whole : middle (low + width low) * p * unit = p * (middle (low + width low) * unit) := by
    ring
  rw [Nat.add_mul, Nat.mul_assoc, Nat.mul_assoc] at gap
  rw [whole] at before
  rw [here, here, next, next, Nat.succ_mul c, Nat.succ_mul d]
  generalize middle low * unit = lower at rise gap ⊢
  generalize middle (low + width low) * unit = upper at before rise gap ⊢
  -- All in all there are at most twice as many middles as latencies.
  have most : sum * n + (c * lower + lower) + d * upper ≤ 2 * 2 ^ manyBits * upper := by
    have few : (p + (c + d + 1)) * upper ≤ 2 ^ manyBits * upper :=
      Nat.mul_le_mul_right upper (by omega)
    have moved := Nat.mul_le_mul_left c rise
    rw [Nat.add_mul, Nat.succ_mul, Nat.add_mul] at few
    rw [Nat.mul_assoc]
    omega
  simp only [manyBits] at most
  omega

/-- The values that are in later buckets do not go through the earlier ones. -/
theorem insert_append (before : ∀ b ∈ buckets, b.1 < low) (later : List (Nat × Nat)) :
    insert low (buckets ++ later) = buckets ++ insert low later := by
  induction buckets with
  | nil => rfl
  | cons first rest ih =>
      obtain ⟨key, count⟩ := first
      have less : key < low := before _ List.mem_cons_self
      rw [List.cons_append, insert, if_neg (by omega), if_neg (by omega),
        ih fun b mem => before b (List.mem_cons_of_mem _ mem), List.cons_append]

/-- A bucket in front of others, left out if it is empty. -/
def opened (low count : Nat) (later : List (Nat × Nat)) : List (Nat × Nat) :=
  if count = 0 then later else (low, count) :: later

theorem foldl_opened (grid : gridWidth sum ∣ sum) (low count : Nat) (later : List (Nat × Nat)) :
    (opened low count later).foldl (addShare n) sum =
      later.foldl (addShare n) (addShare n sum (low, count)) := by
  rw [opened]
  split
  · next none => rw [none, addShare_of_empty grid]
  · rfl

theorem insert_opened {value : Nat} (less : low < value) (count : Nat)
    (later : List (Nat × Nat)) :
    insert value (opened low count later) = opened low count (insert value later) := by
  rw [opened, opened]
  split
  · rfl
  · rw [insert, if_neg (by omega), if_neg (by omega)]

/-- What a bucket holds, apart from what the later ones hold. -/
theorem exists_opened (ordered : Ordered buckets) (later : ∀ b ∈ buckets, low ≤ b.1) :
    ∃ here rest, buckets = opened low here rest ∧
      insert low buckets = (low, here + 1) :: rest ∧ here + count ⟨rest⟩ = count ⟨buckets⟩ ∧
      Ordered rest ∧ ∀ b ∈ rest, low < b.1 := by
  cases buckets with
  | nil => exact ⟨0, [], rfl, rfl, rfl, ordered, nofun⟩
  | cons first rest =>
      obtain ⟨key, held⟩ := first
      obtain ⟨least, -⟩ := List.pairwise_cons.mp ordered.ascending
      rcases Nat.lt_or_eq_of_le (later _ List.mem_cons_self) with less | same
      · refine ⟨0, (key, held) :: rest, rfl, if_pos less, Nat.zero_add _, ordered, ?_⟩
        intro b mem
        rcases List.mem_cons.mp mem with rfl | after
        · exact less
        · exact Nat.lt_trans less (least b after)
      · obtain rfl : low = key := same
        have some_ : held ≠ 0 := Nat.ne_of_gt (ordered.filled _ List.mem_cons_self)
        refine ⟨held, rest, (if_neg some_).symm, ?_, rfl, ordered.tail, least⟩
        rw [insert, if_neg (Nat.lt_irrefl low), if_pos rfl]

/-- Buckets before a value and the others. -/
theorem exists_split (ascending : buckets.Pairwise fun b b' => b.1 < b'.1) (low : Nat) :
    ∃ earlier later, buckets = earlier ++ later ∧ (∀ b ∈ earlier, b.1 < low) ∧
      ∀ b ∈ later, low ≤ b.1 := by
  induction buckets with
  | nil => exact ⟨[], [], rfl, nofun, nofun⟩
  | cons first rest ih =>
      obtain ⟨least, ascending⟩ := List.pairwise_cons.mp ascending
      rcases Nat.lt_or_ge first.1 low with less | reached
      · obtain ⟨earlier, later, rfl, before, after⟩ := ih ascending
        exact ⟨first :: earlier, later, rfl, List.forall_mem_cons.mpr ⟨less, before⟩, after⟩
      · refine ⟨[], first :: rest, rfl, nofun, ?_⟩
        refine List.forall_mem_cons.mpr ⟨reached, fun b mem => ?_⟩
        exact Nat.le_trans reached (Nat.le_of_lt (least b mem))

theorem Ordered.length_le (ordered : Ordered buckets) : buckets.length ≤ count ⟨buckets⟩ := by
  induction buckets with
  | nil => exact Nat.le_refl 0
  | cons first rest ih =>
      have here := ordered.filled _ List.mem_cons_self
      have later := ih ordered.tail
      have total : count ⟨first :: rest⟩ = first.2 + count ⟨rest⟩ := rfl
      rw [List.length_cons]
      omega

include positive few in
/-- Of buckets before a value, the sum is less than twice as many times the value. -/
theorem meanSteps_mul_le (ordered : Ordered buckets) (fits : count ⟨buckets⟩ ≤ n) {most : Nat}
    (bound : ∀ b ∈ buckets, middle b.1 ≤ most) :
    meanSteps n buckets * n ≤ 2 * (most * count ⟨buckets⟩ * unit) := by
  have short := ordered.length_le
  have able : buckets.length + 2 ≤ 2 ^ 52 := by
    have few := few
    simp only [manyBits] at few
    omega
  refine Nat.le_trans ((meanSteps_within positive few able).le_double able) ?_
  exact Nat.mul_le_mul_left 2 (Nat.mul_le_mul_right unit (middles_le bound))

include few in
/-- A value in the next bucket does not lower the mean. -/
theorem meanSteps_insert_next (ordered : Ordered buckets) (starts : Starts low)
    (fits : count ⟨buckets⟩ + 1 ≤ n) :
    meanSteps n (insert low buckets) ≤ meanSteps n (insert (low + width low) buckets) := by
  have positive : 0 < n := by omega
  have wide := width_pos low
  obtain ⟨earlier, later, rfl, before, after⟩ := exists_split ordered.ascending low
  obtain ⟨front, back⟩ := ordered.of_append
  obtain ⟨c, middle_, rfl, inserted, held, tail, above⟩ := exists_opened back after
  obtain ⟨d, rest, rfl, inserted', held', -⟩ := exists_opened tail fun b mem =>
    starts.add_width_le (tail.starts b mem) (above b mem)
  rw [count_append, ← held, ← held'] at fits
  have grid := gridWidth_dvd_meanSteps n earlier
  have grid' : gridWidth (addShare n (meanSteps n earlier) (low, c + 1)) ∣
      addShare n (meanSteps n earlier) (low, c + 1) := gridWidth_dvd_roundSteps _ 1
  have bound : ∀ b ∈ earlier, middle b.1 ≤ middle (low + width low) := fun b mem =>
    (front.starts b mem).middle_mono starts.next (by have less := before b mem; omega)
  have moved : addShare n (addShare n (meanSteps n earlier) (low, c + 1)) (low + width low, d) ≤
      addShare n (addShare n (meanSteps n earlier) (low, c)) (low + width low, d + 1) :=
    add_moved_le few starts (by omega) (meanSteps_mul_le positive few front (by omega) bound)
  calc
    meanSteps n (insert low (earlier ++ opened low c (opened (low + width low) d rest)))
      = rest.foldl (addShare n)
          (addShare n (addShare n (meanSteps n earlier) (low, c + 1)) (low + width low, d)) := by
        rw [insert_append before, inserted, meanSteps_append, List.foldl_cons, foldl_opened grid']
    _ ≤ rest.foldl (addShare n)
          (addShare n (addShare n (meanSteps n earlier) (low, c)) (low + width low, d + 1)) :=
        foldl_addShare_mono moved rest
    _ = meanSteps n (insert (low + width low)
          (earlier ++ opened low c (opened (low + width low) d rest))) := by
        rw [insert_append fun b mem => Nat.lt_add_right _ (before b mem),
          insert_opened (Nat.lt_add_of_pos_right wide), inserted', meanSteps_append,
          foldl_opened grid, List.foldl_cons]

include few in
/-- A value in a later bucket does not lower the mean. -/
theorem meanSteps_insert_mono (ordered : Ordered buckets) {high : Nat} (starts : Starts low)
    (starts' : Starts high) (le : low ≤ high) (fits : count ⟨buckets⟩ + 1 ≤ n) :
    meanSteps n (insert low buckets) ≤ meanSteps n (insert high buckets) := by
  induction left : high - low using Nat.strong_induction_on generalizing low with
  | _ left ih =>
      rcases Nat.lt_or_eq_of_le le with less | rfl
      · have wide := width_pos low
        have reached := starts.add_width_le starts' less
        exact Nat.le_trans (meanSteps_insert_next few ordered starts fits)
          (ih _ (by omega) starts.next reached rfl)
      · exact Nat.le_refl _

end

/-! ## Recorded latencies -/

/-- If every latency is in no later bucket than its partner, the mean is not greater. -/
theorem meanSteps_le_of_forall₂ {ls ls' : List Duration} (paired : List.Forall₂ NotLater ls ls')
    (rest : List Duration) (few : n < 2 ^ manyBits) (fits : (ls ++ rest).length ≤ n) :
    meanSteps n (ofLatencies (ls ++ rest)).buckets ≤
      meanSteps n (ofLatencies (ls' ++ rest)).buckets := by
  induction paired generalizing rest with
  | nil => exact Nat.le_refl _
  | @cons l l' ls ls' le paired ih =>
      have moved : (l' :: (ls ++ rest)).Perm (ls ++ l' :: rest) := List.perm_middle.symm
      have moved' : (ls' ++ l' :: rest).Perm (l' :: (ls' ++ rest)) := List.perm_middle
      calc
        meanSteps n (ofLatencies (l :: (ls ++ rest))).buckets
          ≤ meanSteps n (ofLatencies (l' :: (ls ++ rest))).buckets := by
            rw [ofLatencies_cons, ofLatencies_cons]
            refine meanSteps_insert_mono few (ordered_ofLatencies _) (starts_lowest _)
              (starts_lowest _) le ?_
            have total := count_ofLatencies (ls ++ rest)
            rw [List.cons_append, List.length_cons] at fits
            exact total ▸ fits
        _ = meanSteps n (ofLatencies (ls ++ l' :: rest)).buckets := by rw [ofLatencies_perm moved]
        _ ≤ meanSteps n (ofLatencies (ls' ++ l' :: rest)).buckets := by
            refine ih (l' :: rest) (Nat.le_trans (Nat.le_of_eq ?_) fits)
            simp only [List.length_append, List.length_cons]
            omega
        _ = meanSteps n (ofLatencies (l' :: (ls' ++ rest))).buckets := by
            rw [ofLatencies_perm moved']

/-- Sums in a mean do not come near the end of the range. -/
theorem lt_ceiling {x : Nat} (le : x ≤ 2 * (trackable * 2 ^ manyBits * unit)) : x < ceiling := by
  refine Nat.lt_of_le_of_lt le ?_
  have power : 2 * (trackable * 2 ^ manyBits * unit) = 2 ^ (1 + (32 + manyBits + unitBits)) := by
    have tracked : trackable = 2 ^ 32 := by decide
    rw [unit_eq, tracked, Nat.pow_add, Nat.pow_add, Nat.pow_add, Nat.pow_one]
  rw [power, ceiling_eq]
  exact Nat.pow_lt_pow_right (by decide) (by decide)

/-- A share in a mean has the least steps that are kept for it. -/
theorem hasSteps_share (positive : 0 < n) (few : n < 2 ^ manyBits) (held : b.2 ≤ n)
    (tracked : middle b.1 ≤ trackable) :
    HasSteps (.ofNat (middle b.1) * .ofNat b.2 / .ofNat n) (share n b) := by
  have exact_ {m : Nat} (le : m ≤ 2 ^ 32) : HasSteps (.ofNat m) (m * unit) :=
    HasSteps.ofNat (Nat.lt_of_le_of_lt le (by decide))
  have small : 2 * (weight b * unit) ≤ 2 * (trackable * 2 ^ manyBits * unit) := by
    refine Nat.mul_le_mul_left 2 (Nat.mul_le_mul_right unit ?_)
    exact Nat.mul_le_mul tracked (Nat.le_trans held (Nat.le_of_lt few))
  have same : roundSteps (middle b.1 * unit * (b.2 * unit)) unit =
      roundSteps (weight b * unit) 1 :=
    roundSteps_congr unit_pos Nat.one_pos (by rw [weight]; ring)
  have same' (m : Nat) : roundSteps (m * unit) (n * unit) = roundSteps m n :=
    roundSteps_congr (Nat.mul_pos positive unit_pos) positive (by ring)
  have product : HasSteps (.ofNat (middle b.1) * .ofNat b.2) (roundSteps (weight b * unit) 1) := by
    rw [← same]
    refine (exact_ tracked).mul (exact_ (Nat.le_trans held (Nat.le_of_lt few))) ?_
    rw [same]
    exact lt_ceiling (Nat.le_trans (roundSteps_le_double _) small)
  have short : share n b ≤ 2 * (weight b * unit) :=
    Nat.le_trans (Nat.le_mul_of_pos_right _ positive)
      ((share_within positive few b).le_double (by decide))
  rw [share, ← same']
  refine product.div (exact_ (Nat.le_of_lt few)) (Nat.mul_pos positive unit_pos) ?_
  rw [same']
  exact lt_ceiling (Nat.le_trans short small)

/-- The least steps of a mean are those of the sum that is kept. -/
theorem hasSteps_mean (ordered : Ordered buckets) (positive : 0 < n) (few : n < 2 ^ manyBits)
    (fits : count ⟨buckets⟩ ≤ n) (tracked : ∀ b ∈ buckets, middle b.1 ≤ trackable) :
    HasSteps (buckets.foldl
      (fun sum b => sum + .ofNat (middle b.1) * .ofNat b.2 / .ofNat n) .zero)
      (meanSteps n buckets) := by
  induction buckets using List.reverseRecOn with
  | nil => exact HasSteps.zero
  | append_singleton buckets last ih =>
      have whole := meanSteps_mul_le positive few ordered fits tracked
      have short : meanSteps n (buckets ++ [last]) ≤ 2 * (trackable * 2 ^ manyBits * unit) := by
        refine Nat.le_trans (Nat.le_mul_of_pos_right _ positive) (Nat.le_trans whole ?_)
        refine Nat.mul_le_mul_left 2 (Nat.mul_le_mul_right unit (Nat.mul_le_mul_left _ ?_))
        exact Nat.le_trans fits (Nat.le_of_lt few)
      have total : count ⟨buckets⟩ + last.2 ≤ n := by
        rw [count_append] at fits
        exact fits
      have before := ih ordered.of_append.1 (by omega) fun b mem =>
        tracked b (List.mem_append_left [last] mem)
      have added := hasSteps_share (b := last) positive few (by omega)
        (tracked last (List.mem_append_right buckets List.mem_cons_self))
      rw [meanSteps_append, List.foldl_cons, List.foldl_nil, addShare] at short ⊢
      rw [List.foldl_append, List.foldl_cons, List.foldl_nil]
      exact before.add added (lt_ceiling short)

end

end Trend

end LoadHarness
