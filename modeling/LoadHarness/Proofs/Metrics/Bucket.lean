import LoadHarness.Metrics.Trend
import LoadHarness.Proofs.Binary64.Rounding

/-!
# The layout of buckets

Buckets follow one another without a gap, each as wide as its values have binary digits to spare.
A value lies in the bucket that starts at its lowest value, and buckets are in the order of the
values in them. No bucket is wider than a part in 1024 of its values, and below 2048 each value
has a bucket of its own.
-/

namespace LoadHarness

namespace Trend

variable {u v low : Nat}

theorem width_eq (v : Nat) : width v = 2 ^ (bitLength v - bucketBits) := Nat.one_shiftLeft _

theorem width_pos (v : Nat) : 0 < width v := width_eq v ▸ Nat.two_pow_pos _

theorem lowest_le (v : Nat) : lowest v ≤ v := Nat.sub_le _ _

theorem lt_lowest_add_width (v : Nat) : v < lowest v + width v := by
  have part := Nat.mod_lt v (width_pos v)
  simp only [lowest]
  omega

theorem width_dvd_lowest (v : Nat) : width v ∣ lowest v := Nat.dvd_sub_mod v

/-- Values of as many digits have buckets of the same width. -/
theorem width_congr (same : bitLength u = bitLength v) : width u = width v := by
  rw [width_eq, width_eq, same]

/-- A value with digits to spare has a bucket within the values of as many digits. -/
theorem bounds_of_long (long : bucketBits < bitLength v) :
    2 ^ (bitLength v - 1) ≤ lowest v ∧ lowest v + width v ≤ 2 ^ bitLength v := by
  have below : v < 2 ^ bitLength v := bitLength_le_iff.mp (Nat.le_refl _)
  have above : 2 ^ (bitLength v - 1) ≤ v := by
    refine Nat.le_of_not_lt fun less => ?_
    have short := bitLength_le_iff.mpr less
    omega
  have top : width v ∣ 2 ^ bitLength v := width_eq v ▸ Nat.pow_dvd_pow 2 (Nat.sub_le _ _)
  have bottom : width v ∣ 2 ^ (bitLength v - 1) := by
    rw [width_eq]
    refine Nat.pow_dvd_pow 2 ?_
    simp only [bucketBits]
    omega
  constructor
  · exact Nat.le_of_lt_add_of_dvd (Nat.lt_of_le_of_lt above (lt_lowest_add_width v)) bottom
      (width_dvd_lowest v)
  · have under := Nat.lt_of_le_of_lt (lowest_le v) below
    exact Nat.le_of_lt_add_of_dvd (Nat.add_lt_add_right under _)
      ((Nat.dvd_add_right (width_dvd_lowest v)).mpr (Nat.dvd_refl _)) top

theorem width_of_short (short : bitLength v ≤ bucketBits) : width v = 1 := by
  rw [width_eq, Nat.sub_eq_zero_of_le short, Nat.pow_zero]

/-- Values of a bucket have as many digits. -/
theorem bitLength_of_mem (above : lowest v ≤ u) (below : u < lowest v + width v) :
    bitLength u = bitLength v := by
  rcases Nat.lt_or_ge bucketBits (bitLength v) with long | short
  · obtain ⟨bottom, top⟩ := bounds_of_long long
    have least : ¬ bitLength u ≤ bitLength v - 1 := fun fewer =>
      Nat.not_lt.mpr (Nat.le_trans bottom above) (bitLength_le_iff.mp fewer)
    have most := bitLength_le_iff.mpr (Nat.lt_of_lt_of_le below top)
    omega
  · have single := width_of_short short
    have next := lt_lowest_add_width v
    have same : u = v := by
      have low := lowest_le v
      omega
    rw [same]

/-- Values of a bucket have the same lowest value. -/
theorem lowest_of_mem (above : lowest v ≤ u) (below : u < lowest v + width v) :
    lowest u = lowest v := by
  have same := width_congr (bitLength_of_mem above below)
  have low := lowest_le u
  have next := lt_lowest_add_width u
  rw [same] at next
  have grid := same ▸ width_dvd_lowest u
  refine Nat.le_antisymm ?_ ?_
  · exact Nat.le_of_lt_add_of_dvd (Nat.lt_of_le_of_lt low below) grid (width_dvd_lowest v)
  · exact Nat.le_of_lt_add_of_dvd (Nat.lt_of_le_of_lt above next) (width_dvd_lowest v) grid

/-! ## Buckets -/

/-- A bucket starts here. -/
def Starts (low : Nat) : Prop := lowest low = low

instance (low : Nat) : Decidable (Starts low) := inferInstanceAs (Decidable (_ = _))

theorem starts_lowest (v : Nat) : Starts (lowest v) :=
  lowest_of_mem (Nat.le_refl _) (Nat.lt_add_of_pos_right (width_pos v))

theorem width_lowest (v : Nat) : width (lowest v) = width v :=
  width_congr (bitLength_of_mem (Nat.le_refl _) (Nat.lt_add_of_pos_right (width_pos v)))

/-- A later bucket starts after the end of an earlier one. -/
theorem Starts.add_width_le (starts : Starts low) (starts' : Starts v) (less : low < v) :
    low + width low ≤ v := by
  refine Nat.le_of_not_lt fun inside => ?_
  have same : lowest v = lowest low := by
    refine lowest_of_mem ?_ ?_
    · rw [starts]
      exact Nat.le_of_lt less
    · rwa [starts]
  rw [starts, starts'] at same
  omega

/-- Right after the end of a bucket the next one starts. -/
theorem Starts.next (starts : Starts low) : Starts (low + width low) := by
  refine Nat.le_antisymm (lowest_le _) (Nat.le_of_not_lt fun less => ?_)
  have later : low < lowest (low + width low) := by
    refine Nat.lt_of_not_le fun early => ?_
    have inside := lt_lowest_add_width (low + width low)
    have below : low < lowest (low + width low) + width (low + width low) := by omega
    rw [← width_congr (bitLength_of_mem early below), ← lowest_of_mem early below, starts] at inside
    exact Nat.lt_irrefl _ inside
  have apart := starts.add_width_le (starts_lowest _) later
  omega

/-- Buckets are in the order of their values. -/
theorem lowest_mono (le : u ≤ v) : lowest u ≤ lowest v := by
  refine Nat.le_of_not_lt fun less => ?_
  have apart := (starts_lowest v).add_width_le (starts_lowest u) less
  rw [width_lowest] at apart
  have low := lowest_le u
  have next := lt_lowest_add_width v
  omega

/-! ### What stands for a bucket -/

theorem le_highest (v : Nat) : v ≤ highest (lowest v) := by
  have next := lt_lowest_add_width v
  rw [highest, width_lowest]
  omega

/-- The values up to the highest one of a bucket are those that are in no later bucket. -/
theorem lowest_le_iff : lowest u ≤ lowest v ↔ u ≤ highest (lowest v) := by
  constructor
  · intro le
    have next := lt_lowest_add_width u
    rw [highest, width_lowest]
    rcases Nat.lt_or_eq_of_le le with less | same
    · have apart := (starts_lowest u).add_width_le (starts_lowest v) less
      rw [width_lowest] at apart
      omega
    · have wide : width u = width v := by rw [← width_lowest u, ← width_lowest v, same]
      omega
  · intro le
    refine Nat.le_trans (lowest_mono le) (Nat.le_of_eq (lowest_of_mem ?_ ?_))
    · exact Nat.le_trans (lowest_le v) (le_highest v)
    · have some := width_pos v
      rw [highest, width_lowest]
      omega

theorem le_middle (low : Nat) : low ≤ middle low := Nat.le_add_right _ _

theorem middle_le_highest (low : Nat) : middle low ≤ highest low := by
  have some := width_pos low
  simp only [middle, highest]
  omega

theorem highest_lt_add_width (low : Nat) : highest low < low + width low := by
  have some := width_pos low
  simp only [highest]
  omega

theorem le_highest_self (low : Nat) : low ≤ highest low :=
  Nat.le_trans (le_middle low) (middle_le_highest low)

section

variable {low' : Nat}

/-- All values of a bucket are below those of a later one. -/
theorem Starts.highest_lt (starts : Starts low) (starts' : Starts low') (less : low < low') :
    highest low < low' :=
  Nat.lt_of_lt_of_le (highest_lt_add_width low) (starts.add_width_le starts' less)

theorem Starts.highest_mono (starts : Starts low) (starts' : Starts low') (le : low ≤ low') :
    highest low ≤ highest low' := by
  rcases Nat.lt_or_eq_of_le le with less | rfl
  · exact Nat.le_trans (Nat.le_of_lt (starts.highest_lt starts' less)) (le_highest_self low')
  · exact Nat.le_refl _

theorem Starts.middle_mono (starts : Starts low) (starts' : Starts low') (le : low ≤ low') :
    middle low ≤ middle low' := by
  rcases Nat.lt_or_eq_of_le le with less | rfl
  · calc
      middle low ≤ highest low := middle_le_highest low
      _ ≤ low' := Nat.le_of_lt (starts.highest_lt starts' less)
      _ ≤ middle low' := le_middle low'
  · exact Nat.le_refl _

end

/-! ### How wide buckets are -/

/-- Below 2048 each value has a bucket of its own. -/
theorem width_of_lt (small : v < 2048) : width v = 1 := width_of_short (bitLength_le_iff.mpr small)

/-- From there on a bucket is at most as wide as one part in 1024 of its values. -/
theorem width_le (large : 2048 ≤ v) : 1024 * width v ≤ v := by
  have long : bucketBits < bitLength v := by
    refine Nat.lt_of_not_le fun short => ?_
    exact Nat.not_lt.mpr large (bitLength_le_iff.mp short)
  have bottom := Nat.le_trans (bounds_of_long long).1 (lowest_le v)
  have power : 1024 * width v = 2 ^ (bitLength v - 1) := by
    have digits : 10 + (bitLength v - bucketBits) = bitLength v - 1 := by
      simp only [bucketBits] at long ⊢
      omega
    rw [width_eq, ← digits, Nat.pow_add]
  exact power ▸ bottom

theorem width_mono (le : u ≤ v) : width u ≤ width v := by
  rw [width_eq, width_eq]
  refine Nat.pow_le_pow_right (by decide) (Nat.sub_le_sub_right ?_ bucketBits)
  exact bitLength_le_iff.mpr (Nat.lt_of_le_of_lt le (bitLength_le_iff.mp (Nat.le_refl _)))

/-- A value has the binary digits that tell buckets apart and those to spare. -/
theorem lt_width (v : Nat) : v < 2048 * width v := by
  have power : 2048 * width v = 2 ^ (bucketBits + (bitLength v - bucketBits)) := by
    rw [width_eq, Nat.pow_add, bucketBits]
  rw [power]
  exact bitLength_le_iff.mp (by omega)

/-- The next bucket is at most twice as wide. -/
theorem width_next_le (starts : Starts low) : width (low + width low) ≤ 2 * width low := by
  have digits : low + width low ≤ 2 ^ bitLength low := by
    rcases Nat.lt_or_ge bucketBits (bitLength low) with long | short
    · have top := (bounds_of_long long).2
      rwa [starts] at top
    · rw [width_of_short short]
      exact bitLength_le_iff.mp (Nat.le_refl _)
  have next : bitLength (low + width low) ≤ bitLength low + 1 := by
    refine bitLength_le_iff.mpr (Nat.lt_of_le_of_lt digits ?_)
    exact Nat.pow_lt_pow_right (by decide) (Nat.lt_succ_self _)
  calc
    width (low + width low) = 2 ^ (bitLength (low + width low) - bucketBits) := width_eq _
    _ ≤ 2 ^ (bitLength low - bucketBits + 1) := Nat.pow_le_pow_right (by decide) (by omega)
    _ = 2 * width low := by rw [Nat.pow_succ', width_eq low]

/-- From one bucket to the next the middle rises by at least one part in 4096. -/
theorem middle_gap (starts : Starts low) :
    middle (low + width low) + 4096 * middle low ≤ 4096 * middle (low + width low) := by
  have some := width_pos low
  have wider := width_mono (Nat.le_add_right low (width low))
  have twice := width_next_le starts
  have digits := lt_width low
  simp only [middle]
  omega

/-- A value below 2048 is the highest of its bucket. -/
theorem highest_of_lt (small : v < 2048) : highest (lowest v) = v := by
  have single := width_of_lt small
  have low := lowest_le v
  have next := lt_lowest_add_width v
  rw [highest, width_lowest]
  omega

/-- Any other value is below the highest of its bucket by less than one part in 1024. -/
theorem highest_lt_of_le (large : 2048 ≤ v) : 1024 * highest (lowest v) < 1024 * v + v := by
  have narrow := width_le large
  have low := lowest_le v
  have next := lt_lowest_add_width v
  rw [highest, width_lowest]
  omega

/-! ## Latencies -/

/-- A latency counts as a value that has a bucket. -/
theorem counted_lt (l : Duration) : counted l < trackable := by
  simp only [counted]
  split
  · assumption
  · decide

theorem starts_trackable : Starts trackable := by decide

/-- So it is below the end of the last bucket. -/
theorem highest_counted_lt (l : Duration) : highest (lowest (counted l)) < trackable :=
  (starts_lowest _).highest_lt starts_trackable
    (Nat.lt_of_le_of_lt (lowest_le _) (counted_lt l))

/-- A latency that has a bucket counts as its microseconds, and as at least one. -/
theorem counted_of_lt {l : Duration} (tracked : l.micros < trackable) :
    counted l = max l.micros 1 := by
  have some : max l.micros 1 < trackable := Nat.max_lt.mpr ⟨tracked, by decide⟩
  simp only [counted, if_pos some]

end Trend

end LoadHarness
