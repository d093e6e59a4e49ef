import LoadHarness.Binary64.Basic

/-!
# Shortest decimals

The decimals that round to a finite number form an interval around it. The text of a
number uses the fewest digits that stay inside this interval, and of those the decimal
nearest to the number. All distances are counted in quarters of a least step, so the
search is exact. A number that no seventeen digits reach would be written out in full.
-/

namespace LoadHarness

/-- The decimal number `digits · 10 ^ exponent`. -/
structure Decimal where
  digits : Nat
  exponent : Int
  deriving Repr, DecidableEq

namespace Decimal

/-- Moves zeros at the end of the digits into the exponent. -/
def trimZeros (fuel : Nat) (d : Decimal) : Decimal :=
  match fuel with
  | 0 => d
  | fuel + 1 =>
    if d.digits ≠ 0 ∧ d.digits % 10 = 0 then
      trimZeros fuel ⟨d.digits / 10, d.exponent + 1⟩
    else d

end Decimal

namespace Binary64

/-- A fraction of natural numbers. -/
structure Fraction where
  num : Nat
  den : Nat

/-- `n / 2 ^ twos · 10 ^ tens` as a fraction. -/
def Fraction.scaled (n twos : Nat) (tens : Int) : Fraction :=
  if 0 ≤ tens then ⟨n * Nat.pow 10 tens.toNat, Nat.pow 2 twos⟩
  else ⟨n, Nat.pow 2 twos * Nat.pow 10 (-tens).toNat⟩

/-- The place of one among the binary digits of a count of quarter steps. -/
def quarterBits : Nat := unitBits + 2

/-- The interval of quarter steps that rounds to a magnitude. Its ends belong to it when
the last kept digit is even, since a half goes to the even neighbour. -/
structure Interval where
  low : Nat
  high : Nat
  closed : Bool

/-- The rounding interval of a positive count of steps. Below a power of two the grid is
twice as fine. -/
def interval (steps : Nat) : Interval :=
  let width := gridWidth steps
  let below :=
    if width > 1 ∧ steps = Nat.pow 2 (bitLength steps - 1) then width else 2 * width
  { low := 4 * steps - below
    high := 4 * steps + 2 * width
    closed := steps / width % 2 = 0 }

/-- Whether the decimal `digits · 10 ^ exponent` lies in the interval. -/
def Interval.contains (i : Interval) (d : Decimal) : Bool :=
  let f := Fraction.scaled (d.digits * Nat.pow 2 quarterBits) 0 d.exponent
  if i.closed then i.low * f.den ≤ f.num && f.num ≤ i.high * f.den
  else i.low * f.den < f.num && f.num < i.high * f.den

/-- The least `e` with `steps` below `10 ^ e`, found from the binary length and corrected
by one place either way. -/
def decimalMagnitude (steps : Nat) : Int :=
  let guess : Int := ((bitLength steps : Int) - unitBits) * 30103 / 100000
  let below (e : Int) : Bool :=
    let f := Fraction.scaled steps unitBits (-e)
    f.num < f.den
  if below (guess - 1) then guess - 1
  else if below guess then guess
  else if below (guess + 1) then guess + 1
  else guess + 2

/-- The nearer of the two neighbours of the number with `places` digits that lies in the
rounding interval, if any. -/
def candidate? (steps : Nat) (magnitude : Int) (places : Nat) : Option Decimal :=
  let exponent := magnitude - places
  let value := Fraction.scaled (4 * steps) quarterBits (-exponent)
  let floor := value.num / value.den
  let twiceRest := 2 * (value.num % value.den)
  let lower : Decimal := ⟨floor, exponent⟩
  let upper : Decimal := ⟨floor + 1, exponent⟩
  let i := interval steps
  let upperFirst := value.den < twiceRest || (twiceRest == value.den && floor % 2 == 1)
  if upperFirst then
    if i.contains upper then some upper else if i.contains lower then some lower else none
  else
    if i.contains lower then some lower else if i.contains upper then some upper else none

/-- Every digit of a finite magnitude. -/
def exactDecimal (steps : Nat) : Decimal :=
  ⟨steps * Nat.pow 5 unitBits, -(unitBits : Int)⟩

/-- The shortest decimal that rounds to a positive count of steps. -/
def shortest (steps : Nat) : Decimal :=
  let magnitude := decimalMagnitude steps
  let found := (List.range 17).findSome? fun n => candidate? steps magnitude (n + 1)
  (found.getD (exactDecimal steps)).trimZeros 1100

end Binary64

end LoadHarness
