import Mathlib
import LoadHarness.Proofs.Binary64.Rounding

/-!
# The order of binary64 numbers

Every operation is the exact result rounded once, and rounding keeps the order of quotients. So
numbers that are not negative are added, multiplied and divided in the order of their counts of
least steps, and whole numbers of few digits are not changed at all.
-/

namespace LoadHarness

deriving instance DecidableEq for Binary64

namespace Binary64

/-! ## Counts -/

/-- Counts that are rounded to numbers and not to infinity. -/
def countBits : Nat := 1000

/-- A count is the number with the rounded count of least steps. -/
theorem ofNat_eq {n : Nat} (range : n < 2 ^ countBits) :
    ∃ grid, ofNat n = .finite false (roundSteps (n * unit) 1) grid := by
  have grid : OnGrid (roundSteps (n * unit) 1) := by
    refine onGrid_roundSteps ?_
    calc
      roundSteps (n * unit) 1 ≤ 2 * (n * unit) := roundSteps_le_double _
      _ < 2 * (2 ^ countBits * unit) :=
        Nat.mul_lt_mul_of_pos_left (Nat.mul_lt_mul_of_pos_right range unit_pos) (by decide)
      _ = 2 ^ (1 + (countBits + unitBits)) := by
        rw [unit_eq, Nat.pow_add, Nat.pow_add, Nat.pow_one]
      _ ≤ ceiling := by
        rw [ceiling_eq]
        exact Nat.pow_le_pow_right (by decide) (by decide)
  exact ⟨grid, by rw [ofNat, ofRatio, ofSteps, dif_pos grid]⟩

/-- A number of few digits, with zeros after them, has no digits that the format cannot hold. -/
theorem gridWidth_dvd_shifted {n : Nat} (short : n < 2 ^ precision) (k : Nat) :
    gridWidth (n * 2 ^ k) ∣ n * 2 ^ k := by
  have below : n * 2 ^ k < 2 ^ (precision + k) := by
    rw [Nat.pow_add]
    exact Nat.mul_lt_mul_of_pos_right short (Nat.two_pow_pos k)
  have bits := bitLength_le_iff.mpr below
  have fits : excess (n * 2 ^ k) ≤ k := by
    rw [excess]
    omega
  rw [gridWidth_eq]
  exact Nat.dvd_trans (Nat.pow_dvd_pow 2 fits) (Nat.dvd_mul_left _ n)

/-- One can be cut into halves again and again, and few of the parts are a number of the format. -/
theorem exists_part {k : Nat} (le : k ≤ unitBits) :
    ∃ part, unit = 2 ^ k * part ∧ 0 < part ∧
      ∀ n < 2 ^ precision, gridWidth (n * part) ∣ n * part := by
  refine ⟨2 ^ (unitBits - k), ?_, Nat.two_pow_pos _, fun n short => gridWidth_dvd_shifted short _⟩
  rw [unit_eq, ← Nat.pow_add, Nat.add_sub_cancel' le]

/-- If it is in range it is a number of the format. -/
theorem onGrid_shifted {n k : Nat} (short : n < 2 ^ precision) (range : k < 900) :
    OnGrid (n * 2 ^ k * unit) := by
  have shifted : n * 2 ^ k * unit = n * 2 ^ (k + unitBits) := by
    rw [Nat.mul_assoc, unit_eq, ← Nat.pow_add]
  rw [shifted]
  refine ⟨?_, gridWidth_dvd_shifted short _⟩
  calc
    n * 2 ^ (k + unitBits) < 2 ^ precision * 2 ^ (k + unitBits) :=
      Nat.mul_lt_mul_of_pos_right short (Nat.two_pow_pos _)
    _ = 2 ^ (precision + (k + unitBits)) := (Nat.pow_add ..).symm
    _ ≤ 2 ^ ceilingBits :=
      Nat.pow_le_pow_right (by decide) (by simp only [precision, unitBits, ceilingBits]; omega)
    _ = ceiling := ceiling_eq.symm

/-- So is a count of few digits. -/
theorem onGrid_count {n : Nat} (range : n < 2 ^ precision) : OnGrid (n * unit) := by
  have plain : OnGrid (n * 2 ^ 0 * unit) := onGrid_shifted range (by decide)
  rwa [Nat.pow_zero, Nat.mul_one] at plain

theorem gridWidth_dvd_count {n : Nat} (range : n < 2 ^ precision) :
    gridWidth (n * unit) ∣ n * unit :=
  (onGrid_count range).2

/-- A count of few digits is below every count that is out of range. -/
theorem count_lt_ceiling {n : Nat} (range : n < 2 ^ precision) : n * unit < ceiling :=
  (onGrid_count range).1

/-- A count of few digits is not changed by rounding. -/
theorem ofNat_eq_exact {n : Nat} (range : n < 2 ^ precision) :
    ∃ grid, ofNat n = .finite false (n * unit) grid := by
  have grid := onGrid_count range
  have same : roundSteps (n * unit) 1 = n * unit := roundSteps_of_dvd grid.2
  exact ⟨grid, by rw [ofNat, ofRatio, same, ofSteps, dif_pos grid]⟩

theorem onGrid_unit : OnGrid unit := by
  have one := onGrid_count (n := 1) (by decide)
  rwa [Nat.one_mul] at one

theorem gridWidth_dvd_unit : gridWidth unit ∣ unit := onGrid_unit.2

theorem unit_lt_ceiling : unit < ceiling := onGrid_unit.1

/-- The order of positive numbers is that of their steps. -/
theorem finite_lt_iff {m n : Nat} {grid : OnGrid m} {grid' : OnGrid n} :
    (finite false m grid).lt (finite false n grid') = true ↔ m < n := by
  simp only [lt, position, Bool.false_eq_true, if_false, decide_eq_true_eq, Int.ofNat_lt]

theorem infinite_not_lt {n : Nat} {grid : OnGrid n} :
    (infinite false).lt (finite false n grid) = false := by
  have below : ¬ (ceiling : Int) < n := Int.not_lt.mpr (Int.ofNat_le.mpr (Nat.le_of_lt grid.1))
  simp only [lt, position, Bool.false_eq_true, if_false, below, decide_false]

/-- A number with at least as many steps as another is not less. -/
theorem not_lt_of_le {n b : Nat} {grid : OnGrid b} (le : b ≤ n) :
    (ofSteps false n).lt (.finite false b grid) = false := by
  rw [ofSteps]
  split
  · exact Bool.eq_false_iff.mpr fun less => Nat.not_lt.mpr le (finite_lt_iff.mp less)
  · exact infinite_not_lt

/-! ## Positions -/

section

variable {x y z : Binary64}

theorem le_iff :
    x.le y = true ↔ ∃ a b, x.position = some a ∧ y.position = some b ∧ a ≤ b := by
  rw [le]
  cases x.position <;> cases y.position <;> simp

theorem lt_iff :
    x.lt y = true ↔ ∃ a b, x.position = some a ∧ y.position = some b ∧ a < b := by
  rw [lt]
  cases x.position <;> cases y.position <;> simp

protected theorem le_of_lt (less : x.lt y = true) : x.le y = true := by
  obtain ⟨a, b, left, right, less⟩ := lt_iff.mp less
  exact le_iff.mpr ⟨a, b, left, right, Int.le_of_lt less⟩

protected theorem le_trans (first : x.le y = true) (second : y.le z = true) : x.le z = true := by
  obtain ⟨a, b, left, middle, le⟩ := le_iff.mp first
  obtain ⟨b', c, middle', right, le'⟩ := le_iff.mp second
  obtain rfl : b = b' := Option.some.inj (middle.symm.trans middle')
  exact le_iff.mpr ⟨a, c, left, right, Int.le_trans le le'⟩

/-- A number between two others is not moved. -/
theorem clamp_of_between (above : x.le y = true) (below : y.le z = true) : y.clamp x z = y := by
  obtain ⟨a, b, left, middle, le⟩ := le_iff.mp above
  obtain ⟨b', c, middle', right, le'⟩ := le_iff.mp below
  obtain rfl : b = b' := Option.some.inj (middle.symm.trans middle')
  have low : y.lt x = false := by simp [lt, left, middle, le]
  have high : z.lt y = false := by simp [lt, middle, right, le']
  rw [clamp, low, high]
  rfl

end

/-- A rounded quotient stands where its steps are, or where infinity is. -/
theorem position_ofRatio (n d : Nat) :
    (ofRatio false n d).position = some (min (roundSteps n d) ceiling : Nat) := by
  rw [ofRatio, ofSteps]
  split
  · next grid => rw [Nat.min_eq_left (Nat.le_of_lt grid.1)]; rfl
  · next out =>
    have far : ceiling ≤ roundSteps n d :=
      Nat.le_of_not_lt fun range => out (onGrid_roundSteps range)
    rw [Nat.min_eq_right far]
    rfl

/-- Rounded quotients are in the order of the quotients. -/
theorem ofRatio_le {n d n' d' : Nat} (positive : 0 < d) (positive' : 0 < d')
    (le : n * d' ≤ n' * d) : (ofRatio false n d).le (ofRatio false n' d') = true := by
  refine le_iff.mpr ⟨_, _, position_ofRatio n d, position_ofRatio n' d', ?_⟩
  have steps := roundSteps_mono positive positive' le
  exact Int.ofNat_le.mpr (min_le_min_right ceiling steps)

/-- Quotients of the same value are rounded to the same number. -/
theorem roundSteps_congr {n d n' d' : Nat} (positive : 0 < d) (positive' : 0 < d')
    (same : n * d' = n' * d) : roundSteps n d = roundSteps n' d' :=
  Nat.le_antisymm (roundSteps_mono positive positive' same.le)
    (roundSteps_mono positive' positive same.ge)

theorem ofRatio_congr (negative : Bool) {n d n' d' : Nat} (positive : 0 < d) (positive' : 0 < d')
    (same : n * d' = n' * d) : ofRatio negative n d = ofRatio negative n' d' := by
  rw [ofRatio, ofRatio, roundSteps_congr positive positive' same]

/-- A quotient is rounded once. -/
theorem finite_div {m n : Nat} {s t : Bool} {gridLeft : OnGrid m} {gridRight : OnGrid n}
    (some : n ≠ 0) :
    finite s m gridLeft / finite t n gridRight = .ofRatio (s != t) (m * unit) n :=
  if_neg some

/-! ## Numbers that are not negative -/

/-- A number that is not negative and its count of least steps; a zero may have either sign. -/
def HasSteps (x : Binary64) (n : Nat) : Prop :=
  ∃ negative grid, x = .finite negative n grid ∧ (negative = true → n = 0)

namespace HasSteps

variable {x y : Binary64} {m n : Nat}

theorem grid (has : HasSteps x n) : OnGrid n := has.choose_spec.choose

theorem position (has : HasSteps x n) : x.position = some (n : Int) := by
  obtain ⟨negative, grid, rfl, zero⟩ := has
  cases negative with
  | false => rfl
  | true =>
      obtain rfl := zero rfl
      rfl

theorem le_iff (left : HasSteps x m) (right : HasSteps y n) : x.le y = true ↔ m ≤ n := by
  simp [le, left.position, right.position]

theorem lt_iff (left : HasSteps x m) (right : HasSteps y n) : x.lt y = true ↔ m < n := by
  simp [lt, left.position, right.position]

theorem not_lt_iff (left : HasSteps x m) (right : HasSteps y n) :
    x.lt y = false ↔ y.le x = true := by
  rw [Bool.eq_false_iff, Ne, left.lt_iff right, right.le_iff left, Nat.not_lt]

theorem isZero_iff (has : HasSteps x n) : x.isZero = true ↔ n = 0 := by
  obtain ⟨negative, grid, rfl, -⟩ := has
  simp [Binary64.isZero]

theorem ceilNat (has : HasSteps x n) (bound : Nat) :
    x.ceilNat bound = min ((n + unit - 1) / unit) bound := by
  obtain ⟨negative, grid, rfl, zero⟩ := has
  cases negative with
  | false => rfl
  | true =>
      obtain rfl := zero rfl
      have none : (0 + unit - 1) / unit = 0 := Nat.div_eq_of_lt (by have := unit_pos; omega)
      rw [none, Nat.zero_min]
      rfl

theorem zero : HasSteps .zero 0 := ⟨false, onGrid_zero, rfl, nofun⟩

theorem isFinite (has : HasSteps x n) : x.isFinite = true := by
  obtain ⟨negative, grid, rfl, -⟩ := has
  rfl

theorem zero_le (has : HasSteps x n) : Binary64.zero.le x = true :=
  (zero.le_iff has).mpr (Nat.zero_le n)

/-- Counts of few digits are exact. -/
theorem ofNat (range : n < 2 ^ precision) : HasSteps (.ofNat n) (n * unit) := by
  obtain ⟨grid, same⟩ := ofNat_eq_exact range
  exact ⟨false, grid, same, nofun⟩

/-- Whoever is between zero and a number is not negative either. -/
theorem of_between (low : Binary64.zero.le x = true) (bound : HasSteps y n)
    (high : x.le y = true) : ∃ m, HasSteps x m ∧ m ≤ n := by
  obtain ⟨origin, a, left, middle, above⟩ := Binary64.le_iff.mp low
  obtain ⟨a', b, middle', right, below⟩ := Binary64.le_iff.mp high
  obtain rfl : a = a' := Option.some.inj (middle.symm.trans middle')
  obtain rfl : (n : Int) = b := Option.some.inj (bound.position.symm.trans right)
  have range := bound.grid.1
  have some := ceiling_pos
  cases x with
  | finite negative steps grid =>
      cases negative with
      | false =>
          obtain rfl : (steps : Int) = a := Option.some.inj middle
          exact ⟨steps, ⟨false, grid, rfl, nofun⟩, Int.ofNat_le.mp below⟩
      | true =>
          obtain rfl : -(steps : Int) = a := Option.some.inj middle
          obtain rfl : (0 : Int) = origin := Option.some.inj left
          obtain rfl : steps = 0 := by omega
          exact ⟨0, ⟨true, grid, rfl, fun _ => rfl⟩, Nat.zero_le n⟩
  | infinite negative =>
      cases negative with
      | false =>
          obtain rfl : (ceiling : Int) = a := Option.some.inj middle
          omega
      | true =>
          obtain rfl : -(ceiling : Int) = a := Option.some.inj middle
          obtain rfl : (0 : Int) = origin := Option.some.inj left
          omega
  | nan => cases middle

/-! ### Operations -/

theorem roundSteps_zero (d : Nat) : roundSteps 0 d = 0 := by
  simp [roundSteps, divNearest]

/-- A quotient that stays in range; only a zero may have a sign. -/
theorem ofRatio {negative : Bool} {d : Nat} (zero : negative = true → n = 0)
    (range : roundSteps n d < ceiling) :
    HasSteps (.ofRatio negative n d) (roundSteps n d) := by
  have grid := onGrid_roundSteps range
  refine ⟨negative, grid, by rw [Binary64.ofRatio, ofSteps, dif_pos grid], fun signed => ?_⟩
  rw [zero signed, roundSteps_zero]

theorem add (left : HasSteps x m) (right : HasSteps y n)
    (range : roundSteps (m + n) 1 < ceiling) : HasSteps (x + y) (roundSteps (m + n) 1) := by
  obtain ⟨s, gridLeft, rfl, zeroLeft⟩ := left
  obtain ⟨t, gridRight, rfl, zeroRight⟩ := right
  have exact_ : (if s then -(m : Int) else m) + (if t then -(n : Int) else n) = (m + n : Nat) := by
    cases s <;> cases t <;> simp_all
  change HasSteps (ofInt (s && t) _) _
  rw [exact_, ofInt]
  split
  · next none =>
    obtain none : m + n = 0 := Int.ofNat_eq_zero.mp none
    rw [none, roundSteps_zero]
    exact ⟨_, onGrid_zero, rfl, fun _ => rfl⟩
  · have positive : ¬ ((m + n : Nat) : Int) < 0 := by omega
    rw [Int.natAbs_natCast, decide_eq_false positive]
    exact ofRatio nofun range

theorem mul (left : HasSteps x m) (right : HasSteps y n)
    (range : roundSteps (m * n) unit < ceiling) :
    HasSteps (x * y) (roundSteps (m * n) unit) := by
  obtain ⟨s, gridLeft, rfl, zeroLeft⟩ := left
  obtain ⟨t, gridRight, rfl, zeroRight⟩ := right
  have product : finite s m gridLeft * finite t n gridRight =
      .ofRatio (s != t) (m * n) unit := by
    change Binary64.mul (finite s m gridLeft) (finite t n gridRight) = _
    rw [Binary64.mul]
  rw [product]
  refine ofRatio (fun signed => ?_) range
  cases s with
  | true => rw [zeroLeft rfl, Nat.zero_mul]
  | false => rw [zeroRight (by simpa using signed), Nat.mul_zero]

theorem div (left : HasSteps x m) (right : HasSteps y n) (positive : 0 < n)
    (range : roundSteps (m * unit) n < ceiling) :
    HasSteps (x / y) (roundSteps (m * unit) n) := by
  obtain ⟨s, gridLeft, rfl, zeroLeft⟩ := left
  obtain ⟨t, gridRight, rfl, zeroRight⟩ := right
  have some : n ≠ 0 := Nat.ne_of_gt positive
  rw [finite_div some]
  refine ofRatio (fun signed => ?_) range
  cases s with
  | true => rw [zeroLeft rfl, Nat.zero_mul]
  | false =>
      have signless : t = true := by simpa using signed
      exact absurd (zeroRight signless) some

end HasSteps

end Binary64

end LoadHarness
