import LoadHarness.Duration
import LoadHarness.Word

/-!
# Latency trends

A trend counts latencies in buckets. Up to 2047 microseconds each value has a bucket of its
own; from there on the width doubles with every power of two, so a bucket never spans more
than a thousandth of its values. A latency is cut to whole microseconds and is at least one;
one that no bucket holds counts as one hour.
-/

namespace LoadHarness

namespace Trend

/-- Latencies from here on have no bucket, in microseconds. -/
def trackable : Nat := Word.bound32

/-- What a latency without a bucket counts as: one hour in microseconds. -/
def saturated : Nat := 3600000000

/-- The binary digits that tell the buckets of one width apart. -/
def bucketBits : Nat := 11

/-- The width of the bucket that holds a value. -/
def width (value : Nat) : Nat := 1 <<< (bitLength value - bucketBits)

/-- The lowest value of the bucket that holds a value. -/
def lowest (value : Nat) : Nat := value - value % width value

/-- The highest value of the bucket that starts at `low`. -/
def highest (low : Nat) : Nat := low + width low - 1

/-- The value that stands for a bucket in a mean. -/
def middle (low : Nat) : Nat := low + width low / 2

/-- The value in microseconds that a latency is counted as. -/
def counted (latency : Duration) : Nat :=
  let micros := max latency.micros 1
  if micros < trackable then micros else saturated

/-- Counts one more value in the bucket that starts at `low`; buckets stay ascending. -/
def insert (low : Nat) : List (Nat × Nat) → List (Nat × Nat)
  | [] => [(low, 1)]
  | (key, count) :: rest =>
    if low < key then (low, 1) :: (key, count) :: rest
    else if low = key then (key, count + 1) :: rest
    else (key, count) :: insert low rest

end Trend

/-- The filled buckets of a trend, each with its lowest value and its count, ascending. -/
structure Trend where
  buckets : List (Nat × Nat)

namespace Trend

/-- Nothing recorded. -/
def empty : Trend := ⟨[]⟩

def record (t : Trend) (latency : Duration) : Trend :=
  ⟨insert (lowest (counted latency)) t.buckets⟩

/-- The number of latencies recorded. -/
def count (t : Trend) : Nat := t.buckets.foldr (fun b n => b.2 + n) 0

def isEmpty (t : Trend) : Bool := t.count == 0

/-- The lowest value of the bucket in which the running count reaches `rank`; zero when it
reaches it in none. -/
def bucketAt (rank : Nat) : List (Nat × Nat) → Nat
  | [] => 0
  | (low, count) :: rest => if rank ≤ count then low else bucketAt (rank - count) rest

/-- The rank of a quantile among the recorded latencies, at least one. -/
def rank (t : Trend) (quantile : Binary64) : Nat :=
  max 1 ((quantile * .ofNat t.count).ceilNat (Word.bound64 - 1))

/-- The value in microseconds at a quantile: the highest of its bucket, for the quantile
zero the lowest. -/
def quantile (t : Trend) (q : Binary64) : Nat :=
  let q := if (Binary64.ofNat 1).lt q then .ofNat 1 else q
  let low := bucketAt (t.rank q) t.buckets
  if q.isZero then low else highest low

/-- Milliseconds from microseconds. -/
def toMillis (micros : Nat) : Binary64 := .ofNat micros / .ofNat 1000

/-- The latency in milliseconds that a percentage of the recorded ones does not exceed;
zero when nothing was recorded. -/
def percentile (t : Trend) (p : Binary64) : Binary64 :=
  if t.isEmpty then .zero
  else toMillis (t.quantile (p.clamp .zero (.ofNat 100) / .ofNat 100))

/-- The mean of the bucket middles in microseconds. -/
def mean (t : Trend) : Binary64 :=
  let total := Binary64.ofNat t.count
  t.buckets.foldl
    (fun sum b => sum + Binary64.ofNat (middle b.1) * .ofNat b.2 / total) .zero

/-- The aggregates of a trend, in milliseconds. -/
structure Summary where
  count : Nat
  average : Binary64
  minimum : Binary64
  median : Binary64
  maximum : Binary64
  p90 : Binary64
  p95 : Binary64
  p99 : Binary64
  deriving Inhabited

/-- The aggregates of nothing are zero. -/
def Summary.empty : Summary := ⟨0, .zero, .zero, .zero, .zero, .zero, .zero, .zero⟩

/-- The quantile of a whole percentage, read from its two decimal places. -/
def hundredths (n : Nat) : Binary64 := .ofDecimal false n (-2)

def summary (t : Trend) : Summary :=
  match t.buckets.head?, t.buckets.getLast? with
  | some first, some last =>
    { count := t.count
      average := t.mean / .ofNat 1000
      minimum := toMillis first.1
      median := toMillis (t.quantile (hundredths 50))
      maximum := toMillis (highest last.1)
      p90 := toMillis (t.quantile (hundredths 90))
      p95 := toMillis (t.quantile (hundredths 95))
      p99 := toMillis (t.quantile (hundredths 99)) }
  | _, _ => .empty

end Trend

end LoadHarness
