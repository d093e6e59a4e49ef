import LoadHarness.Duration
import LoadHarness.Text.Blank

/-!
# The text of a duration

A duration is written as counts of units from years down to nanoseconds, zero counts left
out. It is read from counts with units in any order, each count with an optional fraction
that must come out even. A month is a twelfth of a year of 365.25 days.
-/

namespace LoadHarness

namespace Duration

/-- Units of time that a text may name. -/
inductive Unit where
  | nano
  | micro
  | milli
  | second
  | minute
  | hour
  | day
  | week
  | month
  | year
  deriving DecidableEq

namespace Unit

/-- The names of each unit. -/
def names : List (Unit × List String) :=
  [(nano, ["nanos", "nsec", "ns"]),
    (micro, ["usec", "us", "µs"]),
    (milli, ["millis", "msec", "ms"]),
    (second, ["seconds", "second", "secs", "sec", "s"]),
    (minute, ["minutes", "minute", "min", "mins", "m"]),
    (hour, ["hours", "hour", "hrs", "hr", "h"]),
    (day, ["days", "day", "d"]),
    (week, ["weeks", "week", "wks", "wk", "w"]),
    (month, ["months", "month", "M"]),
    (year, ["years", "year", "yrs", "yr", "y"])]

def ofName? (name : String) : Option Unit :=
  (names.find? (·.2.contains name)).map Prod.fst

/-- Whole seconds of the units from a second on. -/
def seconds : Unit → Nat
  | nano | micro | milli => 0
  | second => 1
  | minute => 60
  | hour => 3600
  | day => 86400
  | week => 604800
  | month => 2630016
  | year => 31557600

/-- Nanoseconds of the units below a second. -/
def nanos : Unit → Nat
  | nano => 1
  | micro => 1000
  | milli => 1000000
  | second | minute | hour | day | week | month | year => 0

/-- What a fraction of the unit is counted in: nanoseconds up to a minute, seconds from an
hour on; a nanosecond has no fractions. -/
def fractionScale : Unit → Option (Nat × Bool)
  | nano => none
  | micro => some (1000, false)
  | milli => some (1000000, false)
  | second => some (1000000000, false)
  | minute => some (60000000000, false)
  | hour => some (3600, true)
  | day => some (86400, true)
  | week => some (604800, true)
  | month => some (2630016, true)
  | year => some (31557600, true)

end Unit

/-! ## Writing -/

/-- A count with a unit; nothing for zero. -/
def item (count : Nat) (unit : String) : List String :=
  if count = 0 then [] else [toString count ++ unit]

/-- A count with a word, in the plural from two on. -/
def wordItem (count : Nat) (word : String) : List String :=
  if count = 0 then [] else [toString count ++ word ++ (if 1 < count then "s" else "")]

def toText (d : Duration) : String :=
  if d.nanos = 0 then "0s"
  else
    let s := d.seconds
    let inYear := s % 31557600
    let inMonth := inYear % 2630016
    let inDay := inMonth % 86400
    let n := d.subsecond
    String.intercalate " "
      (wordItem (s / 31557600) "year" ++ wordItem (inYear / 2630016) "month"
        ++ wordItem (inMonth / 86400) "day" ++ item (inDay / 3600) "h"
        ++ item (inDay % 3600 / 60) "m" ++ item (inDay % 60) "s"
        ++ item (n / 1000000) "ms" ++ item (n / 1000 % 1000) "us" ++ item (n % 1000) "ns")

instance : ToString Duration := ⟨toText⟩

/-! ## Reading -/

/-- The number, if a word holds it. -/
def bounded? (n : Nat) : Option Nat := if n < Word.bound64 then some n else none

def isUnitChar (c : Char) : Bool := c.isAlpha || c == 'µ'

/-- A fraction in decimal places. -/
structure Places where
  numerator : Nat
  denominator : Nat

/-- Adds seconds and nanoseconds, each within its bound. -/
def addParts? (d : Duration) (seconds nanos : Nat) : Option Duration := do
  let nanos ← bounded? (d.subsecond + nanos)
  let seconds ← bounded? (d.seconds + seconds + nanos / nanosPerSecond)
  return ofParts seconds (nanos % nanosPerSecond)

/-- Adds a count of units. -/
def addCount? (d : Duration) (count : Nat) (unit : Unit) : Option Duration := do
  let seconds ← bounded? (count * unit.seconds)
  let nanos ← bounded? (count * unit.nanos)
  addParts? d seconds nanos

/-- Adds a fraction of a unit, which must come out even. -/
def addPlaces? (d : Duration) (places : Places) (unit : Unit) : Option Duration := do
  let (scale, whole) ← unit.fractionScale
  let scaled ← bounded? (places.numerator * scale)
  if scaled % places.denominator ≠ 0 then none
  else if whole then addParts? d (scaled / places.denominator) 0
  else addParts? d 0 (scaled / places.denominator)

/-- Adds a count with an optional fraction of the unit of a name. -/
def addItem? (d : Duration) (count : Nat) (places : Option Places) (name : List Char) :
    Option Duration := do
  let unit ← Unit.ofName? (String.ofList name)
  let d ← addCount? d count unit
  match places with
  | some places => addPlaces? d places unit
  | none => return d

def digitOf (c : Char) : Nat := c.toNat - '0'.toNat

/-- What is being read: the digits of a count, the digits of its fraction, a unit, or the
blanks before the next count. -/
inductive Reading where
  | start (empty : Bool)
  | count (n : Nat)
  | places (n : Nat) (p : Places)
  | unit (n : Nat) (p : Option Places) (name : List Char)

/-- Takes one character of a text into the duration read so far. -/
def read? (d : Duration) (state : Reading) (c : Char) : Option (Duration × Reading) :=
  match state with
  | .start empty =>
    if c.isDigit then some (d, .count (digitOf c))
    else if isBlank c then some (d, .start empty)
    else none
  | .count n =>
    if c.isDigit then (bounded? (n * 10 + digitOf c)).map fun n => (d, .count n)
    else if isBlank c then some (d, .count n)
    else if isUnitChar c then some (d, .unit n none [c])
    else if c = '.' then some (d, .places n ⟨0, 1⟩)
    else none
  | .places n p =>
    if c.isDigit then do
      let numerator ← bounded? (p.numerator * 10 + digitOf c)
      let denominator ← bounded? (p.denominator * 10)
      return (d, .places n ⟨numerator, denominator⟩)
    else if isBlank c then some (d, .places n p)
    else if isUnitChar c ∧ p.denominator ≠ 1 then some (d, .unit n (some p) [c])
    else none
  | .unit n p name =>
    if c.isDigit then (addItem? d n p name).map fun d => (d, .count (digitOf c))
    else if isBlank c then (addItem? d n p name).map fun d => (d, .start false)
    else if isUnitChar c then some (d, .unit n p (name ++ [c]))
    else none

/-- Reads characters to the end of a text. -/
def readAll? (d : Duration) (state : Reading) : List Char → Option Duration
  | [] =>
    match state with
    | .start empty => if empty then none else some d
    | .unit n p name => addItem? d n p name
    | .count _ | .places .. => none
  | c :: rest =>
    match read? d state c with
    | some (d, state) => readAll? d state rest
    | none => none

/-- Reads a duration. Zero alone needs no unit. -/
def ofText? (text : String) : Option Duration :=
  if text = "0" then some .zero else readAll? .zero (.start true) text.toList

end Duration

end LoadHarness
