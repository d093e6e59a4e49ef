import LoadHarness.Binary64.Text
import LoadHarness.Json.Value
import LoadHarness.Word

/-!
# Reading JSON numbers

A number is read digit by digit into a significand of 64 binary digits; digits that no longer
fit only move the decimal point. The significand is then scaled by powers of ten up to
`10^308`, each step rounded. So the last digit of a real number may differ from the nearest
binary64 number.
-/

namespace LoadHarness

namespace JsonNumber

def digitOf (c : Char) : Nat := c.toNat - '0'.toNat

/-- Digits taken into a significand as far as they fit: the significand, how many digits it
took, and the digits left over. -/
def takeDigits (significand taken : Nat) : List Char → Nat × Nat × List Char
  | [] => (significand, taken, [])
  | c :: rest =>
    let next := significand * 10 + digitOf c
    if next < Word.bound64 then takeDigits next (taken + 1) rest
    else (significand, taken, c :: rest)

/-- A significand times a power of ten. The power is divided off in steps; none when the
number leaves the range of the format. -/
def scale (fuel : Nat) (x : Binary64) (exponent : Int) : Option Binary64 :=
  if exponent.natAbs ≤ 308 then
    let power := Binary64.ofNat (Nat.pow 10 exponent.natAbs)
    if 0 ≤ exponent then
      let y := x * power
      if y.isInfinite then none else some y
    else some (x / power)
  else if x.isZero then some x
  else if 0 ≤ exponent then none
  else match fuel with
    | 0 => some .zero
    | fuel + 1 => scale fuel (x / .ofNat (Nat.pow 10 308)) (exponent + 308)

/-- The real number of a sign, a significand and an exponent. Four divisions take every
significand to zero, so a few steps are enough. -/
def ofParts (minus : Bool) (significand : Nat) (exponent : Int) : Option JsonNumber :=
  (scale 8 (.ofNat significand) exponent).map fun x => real (if minus then -x else x)

/-- The exponent of a text of digits, if it fits. -/
def exponentOf? (digits : List Char) : Option Nat :=
  let n := Decimal.valueOf digits
  if n < Word.signedBound32 then some n else none

/-- Keeps an exponent within 32 binary digits. -/
def clampExponent (e : Int) : Int :=
  max (-(Word.signedBound32 : Int)) (min (Word.signedBound32 - 1 : Int) e)

/-- Reads what may follow the digits: an exponent. Gives the number and the rest. -/
def readExponent? (minus : Bool) (significand : Nat) (exponent : Int) (cs : List Char) :
    Option (JsonNumber × List Char) :=
  match cs with
  | c :: rest =>
    if c = 'e' ∨ c = 'E' then
      let (down, tail) := Decimal.splitSign rest
      let digits := tail.takeWhile Char.isDigit
      let after := tail.dropWhile Char.isDigit
      if digits.isEmpty then none
      else match exponentOf? digits with
        | some e =>
          let shifted := clampExponent (if down then exponent - e else exponent + e)
          (ofParts minus significand shifted).map (·, after)
        | none =>
          if significand ≠ 0 ∧ !down then none
          else some (real (Binary64.zeroOf minus), after)
    else (ofParts minus significand exponent).map (·, cs)
  | [] => (ofParts minus significand exponent).map (·, [])

/-- A whole number; zero below zero and numbers beyond 64 binary digits become reals. -/
def ofWhole (minus : Bool) (significand : Nat) : JsonNumber :=
  if !minus then natural significand
  else if significand = 0 ∨ Word.signedBound64 < significand then real (-Binary64.ofNat significand)
  else negative significand

/-- Reads a number from the front of a text. -/
def read? (cs : List Char) : Option (JsonNumber × List Char) :=
  let (minus, body) := match cs with
    | '-' :: rest => (true, rest)
    | _ => (false, cs)
  let whole := body.takeWhile Char.isDigit
  let rest := body.dropWhile Char.isDigit
  if whole.isEmpty ∨ (whole.head? = some '0' ∧ whole.length ≠ 1) then none
  else
    let (significand, _, left) := takeDigits 0 0 whole
    match rest with
    | '.' :: tail =>
      let places := tail.takeWhile Char.isDigit
      let after := tail.dropWhile Char.isDigit
      if places.isEmpty then none
      else if left.isEmpty then
        let (significand, taken, _) := takeDigits significand 0 places
        readExponent? minus significand (-(taken : Int)) after
      else
        let (significand, taken, _) := takeDigits significand 0 places
        readExponent? minus significand ((left.length : Int) - taken) after
    | _ =>
      if left.isEmpty ∧ ¬ (rest.head? = some 'e' ∨ rest.head? = some 'E') then
        some (ofWhole minus significand, rest)
      else readExponent? minus significand left.length rest

end JsonNumber

end LoadHarness
