import Mathlib
import LoadHarness.Binary64.Text
import LoadHarness.Proofs.Binary64.Rounding

/-!
# Shortest decimals are read back

Every decimal in the rounding interval of a magnitude is rounded to it. Whether a decimal lies in
an interval is a question of its value alone, so that zeros may be moved into the exponent and
back. The shortest decimal of a magnitude lies in its interval, and hence is read as it.
-/

namespace LoadHarness

/-- The nearest quotient is the one that is off by less than a half, or by a half if it is even. -/
theorem divNearest_eq {n d m : Nat} (positive : 0 < d) (above : 2 * (m * d) ≤ 2 * n + d)
    (below : 2 * n ≤ 2 * (m * d) + d)
    (tie : 2 * (m * d) = 2 * n + d ∨ 2 * n = 2 * (m * d) + d → m % 2 = 0) :
    divNearest n d = m := by
  have whole : n / d * d + n % d = n := Nat.div_add_mod' n d
  have part := Nat.mod_lt n positive
  have next : (n / d + 1) * d = n / d * d + d := Nat.succ_mul _ _
  have least : n / d ≤ m := by
    refine Nat.le_of_not_lt fun less => ?_
    have apart : (m + 1) * d ≤ n / d * d := Nat.mul_le_mul_right d less
    rw [Nat.succ_mul] at apart
    omega
  have most : m ≤ n / d + 1 := by
    refine Nat.le_of_not_lt fun more => ?_
    have apart : (n / d + 1 + 1) * d ≤ m * d := Nat.mul_le_mul_right d more
    rw [Nat.succ_mul] at apart
    omega
  rcases Nat.lt_or_eq_of_le most with low | high
  · obtain rfl : m = n / d := Nat.le_antisymm (Nat.le_of_lt_succ low) least
    simp only [divNearest]
    repeat' split
    all_goals omega
  · subst high
    simp only [divNearest]
    repeat' split
    all_goals omega

namespace Binary64

/-! ## Rounding inside an interval -/

theorem excess_le_iff {n e : Nat} : excess n ≤ e ↔ n < 2 ^ (precision + e) := by
  rw [← bitLength_le_iff, excess, Nat.sub_le_iff_le_add']

theorem le_excess {n e : Nat} (large : 2 ^ (precision - 1 + e) ≤ n) : e ≤ excess n := by
  refine Nat.le_of_not_lt fun less => Nat.not_lt.mpr large ?_
  have bound := excess_le_iff.mp (Nat.le_sub_one_of_lt less)
  have length : precision + (e - 1) = precision - 1 + e := by
    simp only [precision]
    omega
  rwa [length] at bound

section

variable {s n d : Nat}

/-- A number of the format is below the next power of two by at least the distance to its
neighbour. -/
theorem add_gridWidth_le (grid : gridWidth s ∣ s) :
    s + gridWidth s ≤ 2 ^ precision * gridWidth s := by
  obtain ⟨k, count⟩ := grid
  have full := lt_of_excess s
  generalize gridWidth s = w at count full ⊢
  subst count
  have less : k < 2 ^ precision := Nat.lt_of_mul_lt_mul_left (Nat.mul_comm _ w ▸ full)
  calc
    w * k + w = w * (k + 1) := (Nat.mul_succ w k).symm
    _ ≤ w * 2 ^ precision := Nat.mul_le_mul_left w less
    _ = 2 ^ precision * w := Nat.mul_comm _ _

/-- Below a power of two the interval reaches half as far. -/
theorem interval_low (grid : gridWidth s ∣ s) (positive : 0 < s) :
    4 * s ≤ (interval s).low + 2 * gridWidth s ∧ 0 < (interval s).low ∧
      (1 < gridWidth s → s = 2 ^ (precision - 1) * gridWidth s →
        4 * s ≤ (interval s).low + gridWidth s) := by
  have least : gridWidth s ≤ s := Nat.le_of_dvd positive grid
  have width := gridWidth_pos s
  refine ⟨?_, ?_, ?_⟩
  · simp only [interval]
    split <;> omega
  · simp only [interval]
    split <;> omega
  · intro broad power
    have bits : s = Nat.pow 2 (bitLength s - 1) := by
      have long : 0 < excess s := Nat.pos_of_ne_zero fun none => by
        rw [gridWidth_eq, none] at broad
        exact Nat.lt_irrefl _ broad
      have length : precision - 1 + excess s = bitLength s - 1 := by
        simp only [excess, precision] at long ⊢
        omega
      calc
        s = 2 ^ (precision - 1) * gridWidth s := power
        _ = 2 ^ (precision - 1 + excess s) := by rw [gridWidth_eq, Nat.pow_add]
        _ = Nat.pow 2 (bitLength s - 1) := congrArg (2 ^ ·) length
    simp only [interval]
    rw [if_pos ⟨broad, bits⟩]
    omega

/-- A quotient lies in the interval of a magnitude. -/
def Interval.Spans (i : Interval) (n d : Nat) : Prop :=
  i.low * d ≤ n ∧ n ≤ i.high * d ∧ (i.low * d = n ∨ n = i.high * d → i.closed = true)

/-- The distance at a smaller size is at most half of it. -/
theorem gridWidth_double {m : Nat} (finer : excess m < excess s) :
    gridWidth s = 2 * 2 ^ (excess s - 1) ∧ m < 2 ^ (precision - 1) * gridWidth s := by
  have width : gridWidth s = 2 * 2 ^ (excess s - 1) := by
    rw [gridWidth_eq, ← pow_succ', Nat.sub_one_add_one (Nat.ne_zero_of_lt finer)]
  have short := excess_le_iff.mp (Nat.le_sub_one_of_lt finer)
  rw [Nat.pow_add] at short
  simp only [precision] at short ⊢
  omega

/-- A magnitude that is less than the distance to its neighbour above a smaller size is a power
of two. -/
theorem eq_power_of_finer {m : Nat} (grid : gridWidth s ∣ s) (finer : excess m < excess s)
    (near : 2 * s < 2 * (m + 1) + gridWidth s) : s = 2 ^ (precision - 1) * gridWidth s := by
  obtain ⟨k, count⟩ := grid
  have full := le_of_excess (Nat.zero_lt_of_lt finer)
  have short := (gridWidth_double finer).2
  have width := gridWidth_pos s
  generalize gridWidth s = w at count full short near width ⊢
  subst count
  have least : 2 ^ (precision - 1) ≤ k := Nat.le_of_mul_le_mul_right (Nat.mul_comm w k ▸ full) width
  have most : k < 2 ^ (precision - 1) + 1 := by
    refine Nat.lt_of_mul_lt_mul_right (a := w) ?_
    rw [Nat.succ_mul, Nat.mul_comm k]
    omega
  rw [Nat.le_antisymm (Nat.le_of_lt_succ most) least, Nat.mul_comm]

/-- In the interval the distance between magnitudes is the one at the magnitude itself, except
below a power of two, where it is half of it. -/
theorem gridWidth_of_spans (grid : gridWidth s ∣ s) (positive : 0 < s) (nonzero : 0 < d)
    (inside : (interval s).Spans (4 * n) d) :
    gridWidth (n / d) = gridWidth s ∨
      gridWidth s = 2 * gridWidth (n / d) ∧ n < s * d ∧
        4 * s ≤ (interval s).low + gridWidth s := by
  obtain ⟨above, below, -⟩ := inside
  have whole : n / d * d ≤ n := Nat.div_mul_le_self n d
  have next : n < (n / d + 1) * d := Nat.mul_comm _ d ▸ Nat.lt_mul_div_succ n nonzero
  rcases Nat.lt_or_ge (n / d) s with less | more
  · rcases Nat.eq_or_lt_of_le (excess_mono (Nat.le_of_lt less)) with same | finer
    · exact .inl (congrArg (Nat.pow 2) same)
    · -- A size below is reached only from a power of two, which has the near end on that side.
      right
      have reach : (interval s).low < 4 * (n / d + 1) := by
        refine Nat.lt_of_mul_lt_mul_right (a := d) ?_
        rw [Nat.mul_assoc]
        omega
      obtain ⟨low, -, half⟩ := interval_low grid positive
      have power := eq_power_of_finer grid finer (by omega)
      obtain ⟨double, -⟩ := gridWidth_double finer
      have some_bit := Nat.two_pow_pos (excess s - 1)
      have near := half (by omega) power
      have size : excess (n / d) = excess s - 1 := by
        refine Nat.le_antisymm (Nat.le_sub_one_of_lt finer) (le_excess ?_)
        rw [Nat.pow_add]
        simp only [precision] at power ⊢
        omega
      refine ⟨by rw [double, ← size, gridWidth_eq], ?_, near⟩
      exact Nat.lt_of_lt_of_le next (Nat.mul_le_mul_right d less)
  · -- Half the distance above, the size is still the same.
    left
    have longer := excess_mono more
    have shorter : excess (n / d) ≤ excess s := by
      rw [excess_le_iff, Nat.pow_add, ← gridWidth_eq]
      have room := add_gridWidth_le grid
      have reach : 4 * (n / d) * d ≤ (interval s).high * d := by
        rw [Nat.mul_assoc]
        omega
      have reach : 4 * (n / d) ≤ 4 * s + 2 * gridWidth s := Nat.le_of_mul_le_mul_right reach nonzero
      have width := gridWidth_pos s
      omega
    exact congrArg (Nat.pow 2) (Nat.le_antisymm shorter longer)

/-- What lies in the interval of a magnitude is rounded to it. -/
theorem roundSteps_of_spans (grid : gridWidth s ∣ s) (positive : 0 < s) (nonzero : 0 < d)
    (inside : (interval s).Spans (4 * n) d) : roundSteps n d = s := by
  have width := gridWidth_of_spans grid positive nonzero inside
  obtain ⟨low, -, -⟩ := interval_low grid positive
  obtain ⟨above, below, tie⟩ := inside
  have high : (interval s).high = 4 * s + 2 * gridWidth s := rfl
  have even : (interval s).closed = true → s / gridWidth s % 2 = 0 := of_decide_eq_true
  obtain ⟨k, count⟩ := grid
  have steps : k * (d * gridWidth s) = s * d := by
    conv_rhs => rw [count]
    ring
  have part : s / gridWidth s = k := Nat.div_eq_of_eq_mul_right (gridWidth_pos s) count
  rw [part] at even
  simp only [roundSteps]
  rcases width with same | ⟨double, less, near⟩
  · have reach : 4 * (s * d) ≤ (interval s).low * d + 2 * (d * gridWidth s) := by
      linarith [Nat.mul_le_mul_right d low]
    have limit : (interval s).high * d = 4 * (s * d) + 2 * (d * gridWidth s) := by
      rw [high]
      ring
    have nearest : divNearest n (d * gridWidth s) = k := by
      refine divNearest_eq (Nat.mul_pos nonzero (gridWidth_pos s)) ?_ ?_ ?_
      · omega
      · omega
      · exact fun half => even (tie (by omega))
    rw [same, nearest, Nat.mul_comm, ← count]
  · -- At half the distance the magnitude is an even multiple, so a tie is rounded to it.
    have reach : 4 * (s * d) ≤ (interval s).low * d + 2 * (d * gridWidth (n / d)) := by
      rw [double] at near
      linarith [Nat.mul_le_mul_right d near]
    have finer : 2 * k * (d * gridWidth (n / d)) = s * d := by
      rw [← steps, double]
      ring
    have nearest : divNearest n (d * gridWidth (n / d)) = 2 * k := by
      refine divNearest_eq (Nat.mul_pos nonzero (gridWidth_pos (n / d))) ?_ ?_ ?_
      · omega
      · omega
      · exact fun _ => Nat.mul_mod_right 2 k
    rw [nearest, Nat.mul_assoc, Nat.mul_left_comm, ← double, Nat.mul_comm, ← count]

end

end Binary64

/-! ## Values of decimals -/

namespace Decimal

/-- The number that a decimal stands for. -/
def value (d : Decimal) : ℚ := d.digits * 10 ^ d.exponent

/-- A last zero of the digits counts for one in the exponent. -/
theorem value_shift (digits : Nat) (exponent : Int) :
    value ⟨10 * digits, exponent⟩ = value ⟨digits, exponent + 1⟩ := by
  simp only [value]
  rw [zpow_add_one₀ (by norm_num)]
  push_cast
  ring

@[simp] theorem value_trimZeros (fuel : Nat) (d : Decimal) :
    (d.trimZeros fuel).value = d.value := by
  induction fuel generalizing d with
  | zero => rfl
  | succ fuel ih =>
      rw [trimZeros]
      split
      · next zero =>
          rw [ih, ← value_shift, Nat.mul_div_cancel' (Nat.dvd_of_mod_eq_zero zero.2)]
      · rfl

end Decimal

namespace Binary64

theorem Fraction.scaled_den_pos (n twos : Nat) (tens : Int) : 0 < (scaled n twos tens).den := by
  rw [scaled]
  split
  · exact Nat.two_pow_pos twos
  · exact Nat.mul_pos (Nat.two_pow_pos twos) (Nat.pow_pos (by decide))

theorem Fraction.scaled_eq (n twos : Nat) (tens : Int) :
    ((scaled n twos tens).num : ℚ) / (scaled n twos tens).den = n / 2 ^ twos * 10 ^ tens := by
  rw [scaled]
  split
  · next positive =>
      obtain ⟨k, rfl⟩ := Int.eq_ofNat_of_zero_le positive
      simp only [Nat.pow_eq, Int.toNat_natCast, Nat.cast_mul, Nat.cast_pow, Nat.cast_ofNat,
        zpow_natCast]
      ring
  · next negative =>
      obtain ⟨k, rfl⟩ := Int.exists_eq_neg_ofNat (Int.le_of_not_le negative)
      simp only [Nat.pow_eq, neg_neg, Int.toNat_natCast, Nat.cast_mul, Nat.cast_pow,
        Nat.cast_ofNat, zpow_neg, zpow_natCast]
      rw [div_mul_eq_div_div, div_eq_mul_inv]

namespace Interval

variable {i : Interval}

/-- A number of quarter steps lies in the interval. -/
def Holds (i : Interval) (x : ℚ) : Prop :=
  i.low ≤ x ∧ x ≤ i.high ∧ (i.low = x ∨ x = i.high → i.closed = true)

theorem spans_iff {n d : Nat} (positive : 0 < d) : i.Spans n d ↔ i.Holds (n / d) := by
  have nonzero : (0 : ℚ) < d := Nat.cast_pos.mpr positive
  rw [Spans, Holds, le_div_iff₀ nonzero, div_le_iff₀ nonzero, eq_div_iff nonzero.ne',
    div_eq_iff nonzero.ne']
  norm_cast

theorem contains_iff {d : Decimal} : i.contains d = true ↔
    i.Spans (Fraction.scaled (d.digits * Nat.pow 2 quarterBits) 0 d.exponent).num
      (Fraction.scaled (d.digits * Nat.pow 2 quarterBits) 0 d.exponent).den := by
  simp only [contains, Spans]
  generalize Fraction.scaled (d.digits * Nat.pow 2 quarterBits) 0 d.exponent = f
  cases i.closed with
  | true => simp
  | false =>
      simp only [Bool.false_eq_true, if_false, Bool.and_eq_true, decide_eq_true_eq, imp_false]
      omega

/-- Whether a decimal lies in an interval is a question of its value. -/
theorem contains_iff_holds {d : Decimal} :
    i.contains d = true ↔ i.Holds (d.value * 2 ^ quarterBits) := by
  have quarters : ((d.digits * Nat.pow 2 quarterBits : Nat) : ℚ) / 2 ^ 0 * 10 ^ d.exponent =
      d.value * 2 ^ quarterBits := by
    generalize quarterBits = bits
    simp only [Decimal.value, Nat.pow_eq, Nat.cast_mul, Nat.cast_pow, Nat.cast_ofNat]
    ring
  rw [contains_iff, spans_iff (Fraction.scaled_den_pos _ _ _), Fraction.scaled_eq, quarters]

end Interval

/-! ## The shortest decimal -/

section

variable {s : Nat}

theorem contains_of_candidate? {magnitude : Int} {places : Nat} {d : Decimal}
    (found : candidate? s magnitude places = some d) : (interval s).contains d = true := by
  simp only [candidate?] at found
  repeat' split at found
  all_goals first
    | cases found; assumption
    | cases found

/-- A magnitude lies inside its interval. -/
theorem interval_holds_self (grid : gridWidth s ∣ s) (positive : 0 < s) :
    (interval s).Holds (4 * s) := by
  have width := gridWidth_pos s
  have least : gridWidth s ≤ s := Nat.le_of_dvd positive grid
  have low : (interval s).low < 4 * s := by
    simp only [interval]
    split <;> omega
  have high : 4 * s < (interval s).high := by
    simp only [interval]
    omega
  have low : ((interval s).low : ℚ) < 4 * s := by exact_mod_cast low
  have high : (4 * s : ℚ) < (interval s).high := by exact_mod_cast high
  exact ⟨low.le, high.le, fun ends => by
    rcases ends with same | same
    · exact absurd same low.ne
    · exact absurd same high.ne⟩

/-- All digits of a magnitude are the magnitude itself. -/
theorem value_exactDecimal (s : Nat) :
    (exactDecimal s).value * 2 ^ quarterBits = 4 * s := by
  have bits : quarterBits = unitBits + 2 := rfl
  rw [bits, exactDecimal, Decimal.value]
  generalize unitBits = u
  simp only [Nat.pow_eq, Nat.cast_mul, Nat.cast_pow, Nat.cast_ofNat, zpow_neg, zpow_natCast]
  have ten : (10 : ℚ) ^ u = 5 ^ u * 2 ^ u := by
    rw [← mul_pow]
    norm_num
  rw [ten, pow_add]
  field_simp
  norm_num

/-- The shortest decimal of a magnitude lies in its interval. -/
theorem contains_shortest (grid : gridWidth s ∣ s) (positive : 0 < s) :
    (interval s).contains (shortest s) = true := by
  have found : (interval s).contains
      (((List.range 17).findSome? fun n => candidate? s (decimalMagnitude s) (n + 1)).getD
        (exactDecimal s)) = true := by
    cases first : (List.range 17).findSome? fun n => candidate? s (decimalMagnitude s) (n + 1) with
    | some d =>
        obtain ⟨n, -, found⟩ := List.exists_of_findSome?_eq_some first
        exact contains_of_candidate? found
    | none =>
        rw [Option.getD_none, Interval.contains_iff_holds, value_exactDecimal]
        exact interval_holds_self grid positive
  rw [Interval.contains_iff_holds] at found ⊢
  rwa [shortest, Decimal.value_trimZeros]

end

end Binary64

/-! ## Reading a decimal of the interval -/

namespace Decimal

variable {d : Decimal}

/-- The digits of a decimal say how large it is. -/
theorem value_bounds (some_digit : d.digits ≠ 0) :
    (10 : ℚ) ^ (d.exponent + (Nat.repr d.digits).length - 1) ≤ d.value ∧
      d.value < 10 ^ (d.exponent + (Nat.repr d.digits).length) := by
  have length : (Nat.repr d.digits).length = (Nat.toDigits 10 d.digits).length := by
    rw [Nat.repr_eq_ofList_toDigits, String.length_ofList]
  have some_place : 0 < (Nat.toDigits 10 d.digits).length :=
    List.length_pos_iff.mpr Nat.toDigits_ne_nil
  obtain ⟨k, places⟩ := Nat.exists_eq_add_one_of_ne_zero some_place.ne'
  have most : d.digits < 10 ^ (k + 1) :=
    (Nat.length_toDigits_le_iff (by decide) (Nat.succ_pos k)).mp places.le
  have least : 10 ^ k ≤ d.digits := by
    rcases Nat.eq_zero_or_pos k with rfl | more
    · exact Nat.one_le_iff_ne_zero.mpr some_digit
    · refine Nat.le_of_not_lt fun less => ?_
      have short := (Nat.length_toDigits_le_iff (by decide) more).mpr less
      omega
  have power : (0 : ℚ) < 10 ^ d.exponent := zpow_pos (by norm_num) _
  have low : (10 : ℚ) ^ (d.exponent + (k + 1 : Nat) - 1) = 10 ^ k * 10 ^ d.exponent := by
    rw [← zpow_natCast, ← zpow_add₀ (by norm_num)]
    congr 1
    omega
  have high : (10 : ℚ) ^ (d.exponent + (k + 1 : Nat)) = 10 ^ (k + 1) * 10 ^ d.exponent := by
    rw [← zpow_natCast, ← zpow_add₀ (by norm_num), add_comm]
  rw [length, places, low, high, value]
  constructor
  · exact mul_le_mul_of_nonneg_right (by exact_mod_cast least) power.le
  · exact mul_lt_mul_of_pos_right (by exact_mod_cast most) power

theorem lt_value {bits tens : Nat} (powers : 2 ^ bits < 10 ^ tens)
    (reach : 1 ≤ d.value * 2 ^ bits) : (10 : ℚ) ^ (-(tens : Int)) < d.value := by
  have powers : (2 : ℚ) ^ bits < 10 ^ tens := by exact_mod_cast powers
  have power : (0 : ℚ) < 2 ^ bits := by positivity
  rw [zpow_neg, zpow_natCast]
  calc
    ((10 : ℚ) ^ tens)⁻¹ < (2 ^ bits)⁻¹ := inv_strictAnti₀ power powers
    _ ≤ d.value := by rwa [inv_le_iff_one_le_mul₀ power]

theorem value_lt {bits more tens : Nat} (powers : 2 ^ more ≤ 10 ^ tens)
    (reach : d.value * 2 ^ bits < 2 ^ (more + bits)) : d.value < (10 : ℚ) ^ (tens : Int) := by
  have powers : (2 : ℚ) ^ more ≤ 10 ^ tens := by exact_mod_cast powers
  have power : (0 : ℚ) < 2 ^ bits := by positivity
  rw [pow_add] at reach
  rw [zpow_natCast]
  exact (lt_of_mul_lt_mul_right reach power.le).trans_le powers

end Decimal

namespace Binary64

section

variable {s : Nat} {d : Decimal}

/-- A decimal of an interval is in the range where no exponent is cut short. -/
theorem range_of_contains (onGrid : OnGrid s) (positive : 0 < s)
    (inside : (interval s).contains d = true) :
    d.digits ≠ 0 ∧ -330 ≤ d.exponent + (Nat.repr d.digits).length ∧
      d.exponent + (Nat.repr d.digits).length ≤ 310 := by
  obtain ⟨above, below, -⟩ := Interval.contains_iff_holds.mp inside
  have large : (1 : ℚ) ≤ (interval s).low := by
    exact_mod_cast (interval_low onGrid.2 positive).2.1
  have small : ((interval s).high : ℚ) < 2 ^ (1025 + quarterBits) := by
    have least : gridWidth s ≤ s := Nat.le_of_dvd positive onGrid.2
    have bits : 1025 + quarterBits = ceilingBits + 3 := rfl
    have limit := onGrid.1
    rw [ceiling_eq] at limit
    have high : (interval s).high < 2 ^ (ceilingBits + 3) := by
      simp only [interval]
      rw [Nat.pow_add]
      omega
    rw [bits]
    exact_mod_cast high
  have tiny : 2 ^ quarterBits < 10 ^ 331 := by decide +kernel
  have huge : 2 ^ 1025 ≤ 10 ^ 310 := by decide +kernel
  have low := Decimal.lt_value tiny (large.trans above)
  have high := Decimal.value_lt huge (below.trans_lt small)
  have some_digit : d.digits ≠ 0 := fun none => by
    rw [Decimal.value, none, Nat.cast_zero, zero_mul] at low
    exact absurd low (not_lt.mpr (by positivity))
  obtain ⟨least, most⟩ := Decimal.value_bounds some_digit
  have bottom := (zpow_lt_zpow_iff_right₀ (by norm_num)).mp (low.trans most)
  have top := (zpow_lt_zpow_iff_right₀ (by norm_num)).mp (least.trans_lt high)
  exact ⟨some_digit, by omega, by omega⟩

/-- Every decimal in the interval of a magnitude is read as it. -/
theorem ofDecimal_of_contains (onGrid : OnGrid s) (positive : 0 < s)
    (inside : (interval s).contains d = true) (negative : Bool) :
    ofDecimal negative d.digits d.exponent = .finite negative s onGrid := by
  obtain ⟨some_digit, low, high⟩ := range_of_contains onGrid positive inside
  have spans := Interval.contains_iff.mp inside
  have quarters : Nat.pow 2 quarterBits = 4 * unit := by
    have bits : quarterBits = unitBits + 2 := rfl
    rw [bits, unit_eq]
    generalize unitBits = u
    rw [Nat.pow_eq, Nat.pow_add]
    exact Nat.mul_comm _ _
  have read {n den : Nat} (nonzero : 0 < den) (near : (interval s).Spans (4 * n) den) :
      ofRatio negative n den = .finite negative s onGrid := by
    rw [ofRatio, roundSteps_of_spans onGrid.2 positive nonzero near, ofSteps, dif_pos onGrid]
  simp only [ofDecimal]
  rw [if_neg some_digit, if_neg (by omega), if_neg (by omega)]
  rw [Fraction.scaled, quarters] at spans
  split
  · next whole =>
      rw [if_pos whole] at spans
      refine read Nat.one_pos ?_
      generalize Nat.pow 10 d.exponent.toNat = power at spans ⊢
      have count : 4 * (d.digits * power * unit) = d.digits * (4 * unit) * power := by ring
      rw [count]
      exact spans
  · next part =>
      rw [if_neg part] at spans
      refine read (Nat.pow_pos (by decide)) ?_
      have scale : Nat.pow 2 0 * Nat.pow 10 (-d.exponent).toNat = Nat.pow 10 (-d.exponent).toNat :=
        Nat.one_mul _
      rw [scale] at spans
      rw [Nat.mul_left_comm]
      exact spans

end

end Binary64

end LoadHarness
