import LoadHarness.Binary64.Text
import LoadHarness.Text.Blank

/-!
# Aggregations

An aggregation reduces a series to one number. Trends have an average, extremes, a median
and percentiles, rates have a ratio, and every series has a count.
-/

namespace LoadHarness

/-- The shape of a series, which decides the aggregations it has. -/
inductive SeriesKind where
  | trend
  | rate
  | counter
  deriving DecidableEq

namespace SeriesKind

def name : SeriesKind → String
  | trend => "Trend"
  | rate => "Rate"
  | counter => "Counter"

end SeriesKind

inductive Aggregation where
  | average
  | minimum
  | maximum
  | median
  | percentile (p : Binary64)
  | rate
  | count

namespace Aggregation

/-- Why a text names no aggregation. -/
inductive Cause where
  | unknown (text : String)
  | unreadable (text : String)
  | outside (p : Binary64)

namespace Cause

def message : Cause → String
  | unknown text => "unknown aggregation '" ++ text ++ "'"
  | unreadable text => "invalid percentile '" ++ text ++ "'"
  | outside p => "percentile " ++ p.toText ++ " outside 0..=100"

end Cause

/-- Whether series of a kind have the aggregation. -/
def supports : Aggregation → SeriesKind → Bool
  | average, kind | minimum, kind | maximum, kind | median, kind | percentile _, kind =>
    kind == .trend
  | rate, kind => kind == .rate
  | count, _ => true

def toText : Aggregation → String
  | average => "avg"
  | minimum => "min"
  | maximum => "max"
  | median => "med"
  | percentile p => "p(" ++ p.toText ++ ")"
  | rate => "rate"
  | count => "count"

instance : ToString Aggregation := ⟨toText⟩

/-- The text between `p(` and the parenthesis that ends the whole. -/
def percentileInside? : List Char → Option (List Char)
  | 'p' :: '(' :: rest => if rest.getLast? = some ')' then some rest.dropLast else none
  | _ => none

/-- Whether a number is a percentage; `nan` is none. -/
def isPercentage (p : Binary64) : Bool := Binary64.zero.le p && p.le (.ofNat 100)

def ofChars? (cs : List Char) : Except Cause Aggregation :=
  if cs = ['a', 'v', 'g'] then .ok average
  else if cs = ['m', 'i', 'n'] then .ok minimum
  else if cs = ['m', 'a', 'x'] then .ok maximum
  else if cs = ['m', 'e', 'd'] then .ok median
  else if cs = ['r', 'a', 't', 'e'] then .ok rate
  else if cs = ['c', 'o', 'u', 'n', 't'] then .ok count
  else match percentileInside? cs with
    | none => .error (.unknown (String.ofList cs))
    | some inside =>
      match Binary64.ofChars? (trimChars inside) with
      | none => .error (.unreadable (String.ofList inside))
      | some p => if isPercentage p then .ok (percentile p) else .error (.outside p)

def ofText? (text : String) : Except Cause Aggregation := ofChars? text.toList

end Aggregation

end LoadHarness
