import LoadHarness.Proofs.Binary64.Order
import LoadHarness.Threshold.Expression

/-!
# What comparisons say

Every binary64 number but `nan` has a value on the extended real line, and the order of the
numbers is the order of their values. So a comparison holds of two numbers exactly if their values
stand in the relation of its symbol. Of what is no number only one comparison holds: it is unequal
to everything.
-/

namespace LoadHarness

namespace Binary64

/-! ## Values -/

/-- The value of a number on the extended real line; `nan` has none. -/
noncomputable def value? : Binary64 → Option EReal
  | finite negative steps _ =>
    some (((if negative then -(steps : ℝ) else steps) / 2 ^ unitBits : ℝ) : EReal)
  | infinite negative => some (if negative then ⊥ else ⊤)
  | nan => none

/-- The value at a position. -/
noncomputable def valueAt (a : Int) : EReal :=
  if (ceiling : Int) ≤ a then ⊤
  else if a ≤ -(ceiling : Int) then ⊥
  else ((a / 2 ^ unitBits : ℝ) : EReal)

/-- Finite numbers are strictly between the infinities. -/
theorem position_finite (negative : Bool) {steps : Nat} (grid : OnGrid steps) :
    ∃ a : Int, (finite negative steps grid).position = some a ∧
      (a : ℝ) = (if negative then -(steps : ℝ) else steps) ∧
        -(ceiling : Int) < a ∧ a < ceiling := by
  have range : (steps : Int) < ceiling := Int.ofNat_lt.mpr grid.1
  cases negative with
  | false => exact ⟨steps, rfl, by simp, by omega, range⟩
  | true => exact ⟨-steps, rfl, by simp, by omega, by omega⟩

theorem valueAt_ceiling : valueAt ceiling = ⊤ := if_pos (Int.le_refl _)

theorem valueAt_neg_ceiling : valueAt (-ceiling) = ⊥ := by
  have some_ := ceiling_pos
  rw [valueAt, if_neg (by omega), if_pos (Int.le_refl _)]

/-- A number has the value at its position. -/
theorem value?_eq (x : Binary64) : x.value? = x.position.map valueAt := by
  cases x with
  | finite negative steps grid =>
      obtain ⟨a, placed, same, above, below⟩ := position_finite negative grid
      rw [placed, Option.map_some, valueAt, if_neg (Int.not_le.mpr below),
        if_neg (Int.not_le.mpr above), value?, same]
  | infinite negative =>
      cases negative with
      | false => exact congrArg some valueAt_ceiling.symm
      | true => exact congrArg some valueAt_neg_ceiling.symm
  | nan => rfl

/-- The positions, from one infinity to the other. -/
theorem position_mem {x : Binary64} {a : Int} (placed : x.position = some a) :
    a ∈ Set.Icc (-(ceiling : Int)) ceiling := by
  have order : -(ceiling : Int) ≤ ceiling := by omega
  cases x with
  | finite negative steps grid =>
      obtain ⟨b, placed', -, above, below⟩ := position_finite negative grid
      obtain rfl := Option.some.inj (placed.symm.trans placed')
      exact ⟨Int.le_of_lt above, Int.le_of_lt below⟩
  | infinite negative =>
      obtain rfl := Option.some.inj placed
      cases negative with
      | false => exact ⟨order, Int.le_refl _⟩
      | true => exact ⟨Int.le_refl _, order⟩
  | nan => cases placed

/-- Later positions have greater values. -/
theorem valueAt_strictMonoOn : StrictMonoOn valueAt (Set.Icc (-(ceiling : Int)) ceiling) := by
  rintro a ⟨low, -⟩ b ⟨-, high⟩ less
  have notTop : ¬ (ceiling : Int) ≤ a := by omega
  have notBottom : ¬ b ≤ -(ceiling : Int) := by omega
  rw [valueAt, valueAt, if_neg notTop, if_neg notBottom]
  split
  · split
    · exact bot_lt_top
    · exact EReal.bot_lt_coe _
  · split
    · exact EReal.coe_lt_top _
    · refine EReal.coe_lt_coe_iff.mpr (div_lt_div_of_pos_right (by exact_mod_cast less) ?_)
      exact pow_pos two_pos unitBits

end Binary64

/-! ## Relations -/

namespace Comparison

section

variable {α β : Type} [LinearOrder α] [LinearOrder β]

/-- The relation of two values that a symbol stands for. -/
def Relates : Comparison → α → α → Prop
  | less, a, b => a < b
  | atMost, a, b => a ≤ b
  | greater, a, b => b < a
  | atLeast, a, b => b ≤ a
  | equal, a, b => a = b
  | unequal, a, b => a ≠ b

/-- What has no value is unequal, and is in no other relation. -/
def Says (c : Comparison) : Option α → Option α → Prop
  | some a, some b => c.Relates a b
  | none, _ | some _, none => c = unequal

/-- Values that are in order have all the relations of what they are the values of. -/
theorem relates_map {f : α → β} {s : Set α} (mono : StrictMonoOn f s) {a b : α} (left : a ∈ s)
    (right : b ∈ s) (c : Comparison) : c.Relates (f a) (f b) ↔ c.Relates a b := by
  cases c with
  | less => exact mono.lt_iff_lt left right
  | atMost => exact mono.le_iff_le left right
  | greater => exact mono.lt_iff_lt right left
  | atLeast => exact mono.le_iff_le right left
  | equal => exact mono.injOn.eq_iff left right
  | unequal => exact (mono.injOn.eq_iff left right).not

end

/-- A comparison holds by the order of positions. -/
theorem holds_iff_position (c : Comparison) (x y : Binary64) :
    c.holds x y = true ↔ c.Says x.position y.position := by
  cases c <;> cases left : x.position <;> cases right : y.position <;>
    simp [holds, Binary64.lt, Binary64.le, Binary64.eq, left, right, Says, Relates]

/-- A comparison holds exactly if the values of the two numbers are in its relation. -/
theorem holds_iff (c : Comparison) (x y : Binary64) :
    c.holds x y = true ↔ c.Says x.value? y.value? := by
  rw [holds_iff_position, x.value?_eq, y.value?_eq]
  cases left : x.position with
  | none => exact Iff.rfl
  | some a =>
      cases right : y.position with
      | none => exact Iff.rfl
      | some b =>
          have order := relates_map Binary64.valueAt_strictMonoOn (Binary64.position_mem left)
            (Binary64.position_mem right) c
          exact order.symm

end Comparison

end LoadHarness
