/-!
# Binary64 numbers

A binary64 number is a signed multiple of the least positive number `2^-1074`, an
infinity, or not a number. A finite magnitude is stored as its count of least steps,
so that order, sums and products are statements about natural numbers. Only counts
whose binary digits after the first 53 are zero are numbers of the format; rounding
is the one way to produce them.
-/

namespace LoadHarness

/-- The number of binary digits of `n`, zero for zero. -/
def bitLength (n : Nat) : Nat := if n = 0 then 0 else n.log2 + 1

/-- The quotient `n / d` to the nearest integer, an exact half to the even neighbour. -/
def divNearest (n d : Nat) : Nat :=
  let q := n / d
  let twice := 2 * (n % d)
  if twice < d then q
  else if d < twice then q + 1
  else if q % 2 = 0 then q else q + 1

namespace Binary64

/-- Digits of precision of a magnitude. -/
def precision : Nat := 53

/-- The binary digits of the largest magnitude. -/
def ceilingBits : Nat := 2098

/-- Every finite magnitude is below this many least steps. -/
def ceiling : Nat := Nat.pow 2 ceilingBits

/-- The place of one among the binary digits of a count of least steps. -/
def unitBits : Nat := 1074

/-- One in least steps. -/
def unit : Nat := Nat.pow 2 unitBits

/-- The number of trailing binary digits that a magnitude of this size cannot use. -/
def excess (n : Nat) : Nat := bitLength n - precision

/-- The distance between the magnitudes of this size. -/
def gridWidth (n : Nat) : Nat := Nat.pow 2 (excess n)

/-- A count of least steps that the format can hold. -/
def OnGrid (n : Nat) : Prop := n < ceiling ∧ gridWidth n ∣ n

instance (n : Nat) : Decidable (OnGrid n) := inferInstanceAs (Decidable (_ ∧ _))

/-- The count of least steps nearest to `n / d`, before the range is checked. -/
def roundSteps (n d : Nat) : Nat :=
  let width := gridWidth (n / d)
  divNearest n (d * width) * width

end Binary64

/-- A binary64 number. -/
inductive Binary64 where
  | finite (negative : Bool) (steps : Nat) (onGrid : Binary64.OnGrid steps)
  | infinite (negative : Bool)
  | nan

namespace Binary64

instance : Inhabited Binary64 := ⟨.nan⟩

theorem ceiling_pos : 0 < ceiling := by
  unfold ceiling
  generalize ceilingBits = n
  exact Nat.two_pow_pos n

theorem onGrid_zero : OnGrid 0 := ⟨ceiling_pos, Nat.dvd_zero _⟩

/-- Zero of either sign. -/
def zeroOf (negative : Bool) : Binary64 := .finite negative 0 onGrid_zero

/-- Positive zero. -/
def zero : Binary64 := zeroOf false

/-- The number with this sign and this count of least steps, infinite when the count
leaves the range. A count between two grid points does not arise from `roundSteps`. -/
def ofSteps (negative : Bool) (steps : Nat) : Binary64 :=
  if h : OnGrid steps then .finite negative steps h else .infinite negative

/-- The number nearest to `n / d` least steps. -/
def ofRatio (negative : Bool) (n d : Nat) : Binary64 :=
  ofSteps negative (roundSteps n d)

/-- The number nearest to a natural number. -/
def ofNat (n : Nat) : Binary64 := ofRatio false (n * unit) 1

/-- The number nearest to the decimal `digits · 10 ^ exponent`. Exponents beyond the
range of the format are cut short, so that no power of ten grows with the input. -/
def ofDecimal (negative : Bool) (digits : Nat) (exponent : Int) : Binary64 :=
  if digits = 0 then zeroOf negative
  else
    let places := (Nat.repr digits).length
    if (310 : Int) < exponent + places then .infinite negative
    else if exponent + places < -330 then zeroOf negative
    else if 0 ≤ exponent then
      ofRatio negative (digits * Nat.pow 10 exponent.toNat * unit) 1
    else
      ofRatio negative (digits * unit) (Nat.pow 10 (-exponent).toNat)

def isFinite : Binary64 → Bool
  | .finite .. => true
  | _ => false

def isInfinite : Binary64 → Bool
  | .infinite _ => true
  | _ => false

/-- Zero of either sign. -/
def isZero : Binary64 → Bool
  | .finite _ steps _ => steps == 0
  | _ => false

def neg : Binary64 → Binary64
  | .finite s n h => .finite (!s) n h
  | .infinite s => .infinite (!s)
  | .nan => .nan

instance : Neg Binary64 := ⟨neg⟩

/-! ## Order

Zero equals zero whatever its sign; nothing compares with `nan`. -/

/-- The position of a number on the extended line, in least steps; none for `nan`. -/
def position : Binary64 → Option Int
  | .finite s n _ => some (if s then -(n : Int) else n)
  | .infinite s => some (if s then -(ceiling : Int) else ceiling)
  | .nan => none

def lt (x y : Binary64) : Bool :=
  match x.position, y.position with
  | some a, some b => a < b
  | _, _ => false

def le (x y : Binary64) : Bool :=
  match x.position, y.position with
  | some a, some b => a ≤ b
  | _, _ => false

def eq (x y : Binary64) : Bool :=
  match x.position, y.position with
  | some a, some b => a == b
  | _, _ => false

/-! ## Arithmetic

Each operation is the exact result rounded once. -/

/-- The nearest number to a signed count of least steps; `zeroSign` is the sign of an
exact zero. -/
def ofInt (zeroSign : Bool) (n : Int) : Binary64 :=
  if n = 0 then zeroOf zeroSign
  else ofRatio (n < 0) n.natAbs 1

def add : Binary64 → Binary64 → Binary64
  | .nan, _ => .nan
  | _, .nan => .nan
  | .infinite s, .infinite t => if s == t then .infinite s else .nan
  | .infinite s, .finite .. => .infinite s
  | .finite .., .infinite t => .infinite t
  | .finite s m _, .finite t n _ =>
    ofInt (s && t) ((if s then -(m : Int) else m) + (if t then -(n : Int) else n))

def mul : Binary64 → Binary64 → Binary64
  | .nan, _ => .nan
  | _, .nan => .nan
  | .infinite s, .infinite t => .infinite (s != t)
  | .infinite s, .finite t n _ => if n = 0 then .nan else .infinite (s != t)
  | .finite s m _, .infinite t => if m = 0 then .nan else .infinite (s != t)
  | .finite s m _, .finite t n _ => ofRatio (s != t) (m * n) unit

def div : Binary64 → Binary64 → Binary64
  | .nan, _ => .nan
  | _, .nan => .nan
  | .infinite _, .infinite _ => .nan
  | .infinite s, .finite t _ _ => .infinite (s != t)
  | .finite s _ _, .infinite t => zeroOf (s != t)
  | .finite s m _, .finite t n _ =>
    if n = 0 then (if m = 0 then .nan else .infinite (s != t))
    else ofRatio (s != t) (m * unit) n

instance : Add Binary64 := ⟨add⟩
instance : Mul Binary64 := ⟨mul⟩
instance : Div Binary64 := ⟨div⟩

/-! ## Conversion to natural numbers

Both conversions stop at zero below and at `bound` above, and send `nan` to zero. -/

/-- The least natural number that is not below the number. -/
def ceilNat (bound : Nat) : Binary64 → Nat
  | .finite false n _ => min ((n + unit - 1) / unit) bound
  | .infinite false => bound
  | _ => 0

/-- The nearest natural number, an exact half upwards. -/
def roundNat (bound : Nat) : Binary64 → Nat
  | .finite false n _ => min ((2 * n + unit) / (2 * unit)) bound
  | .infinite false => bound
  | _ => 0

/-- The number moved into the range from `low` to `high`; `nan` stays. -/
def clamp (x low high : Binary64) : Binary64 :=
  if x.lt low then low else if high.lt x then high else x

end Binary64

end LoadHarness
