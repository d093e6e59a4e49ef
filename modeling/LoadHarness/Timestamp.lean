/-!
# Points in time

A timestamp counts seconds from the start of 1970 and nanoseconds within the second. Its text
is a date of the proleptic Gregorian calendar with a time of day in universal time.
-/

namespace LoadHarness

structure Timestamp where
  seconds : Int
  nanos : Nat
  deriving DecidableEq, Inhabited

namespace Timestamp

/-- A calendar date. -/
structure Date where
  year : Int
  month : Nat
  day : Nat

/-- The date that many days after the first of January 1970. Years are counted from March,
so that the day a leap year adds is the last one of its year. -/
def dateOfDays (days : Int) : Date :=
  let shifted := days + 719468
  let era := shifted.fdiv 146097
  let dayOfEra := (shifted - era * 146097).toNat
  let yearOfEra :=
    (dayOfEra - dayOfEra / 1460 + dayOfEra / 36524 - dayOfEra / 146096) / 365
  let dayOfYear := dayOfEra - (365 * yearOfEra + yearOfEra / 4 - yearOfEra / 100)
  let marchMonth := (5 * dayOfYear + 2) / 153
  let month := if marchMonth < 10 then marchMonth + 3 else marchMonth - 9
  { year := (yearOfEra : Int) + era * 400 + (if month ≤ 2 then 1 else 0)
    month
    day := dayOfYear - (153 * marchMonth + 2) / 5 + 1 }

/-- A number with at least `width` digits. -/
def padded (width n : Nat) : String :=
  let digits := toString n
  String.ofList (List.replicate (width - digits.length) '0') ++ digits

/-- A year: four digits, with a sign and more digits when four do not hold it. -/
def yearText (year : Int) : String :=
  if 0 ≤ year ∧ year ≤ 9999 then padded 4 year.toNat
  else (if year < 0 then "-" else "+") ++ padded 4 year.natAbs

/-- A fraction of a second in three, six or nine digits, as few as hold it. -/
def fractionText (nanos : Nat) : String :=
  if nanos = 0 then ""
  else if nanos % 1000000 = 0 then "." ++ padded 3 (nanos / 1000000)
  else if nanos % 1000 = 0 then "." ++ padded 6 (nanos / 1000)
  else "." ++ padded 9 nanos

/-- The text of a timestamp. Nanoseconds beyond a second belong to a leap second. -/
def toText (t : Timestamp) : String :=
  let date := dateOfDays (t.seconds.fdiv 86400)
  let ofDay := (t.seconds.fmod 86400).toNat
  let leap := t.nanos / 1000000000
  yearText date.year ++ "-" ++ padded 2 date.month ++ "-" ++ padded 2 date.day ++ "T"
    ++ padded 2 (ofDay / 3600) ++ ":" ++ padded 2 (ofDay / 60 % 60) ++ ":"
    ++ padded 2 (ofDay % 60 + leap) ++ fractionText (t.nanos % 1000000000) ++ "Z"

instance : ToString Timestamp := ⟨toText⟩

end Timestamp

end LoadHarness
