import LoadHarness.Binary64.Basic

/-!
# Rates

A rate counts how often an observation was true and how often it was not.
-/

namespace LoadHarness

/-- Observations that were true, and those that were not. -/
structure Rate where
  hits : Nat
  misses : Nat
  deriving DecidableEq, Inhabited

namespace Rate

/-- Nothing observed. -/
def empty : Rate := ⟨0, 0⟩

def observe (r : Rate) (hit : Bool) : Rate :=
  if hit then { r with hits := r.hits + 1 } else { r with misses := r.misses + 1 }

def total (r : Rate) : Nat := r.hits + r.misses

/-- The part of the observations that was true, zero when nothing was observed. -/
def ratio (r : Rate) : Binary64 :=
  if r.total = 0 then .zero else .ofNat r.hits / .ofNat r.total

@[simp] theorem total_empty : empty.total = 0 := rfl

@[simp] theorem total_observe (r : Rate) (hit : Bool) :
    (r.observe hit).total = r.total + 1 := by
  cases hit <;> simp only [observe, total, if_true, if_false, Bool.false_eq_true] <;> omega

end Rate

end LoadHarness
