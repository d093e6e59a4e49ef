import LoadHarness.Toml.Text
import LoadHarness.Word

/-!
# Numbers, dates and times in TOML

A word without quotes is a truth value, a whole number of 64 binary digits, a binary64 number,
a date, a time or both. Single underscores may stand between digits.
-/

namespace LoadHarness

namespace Toml

/-- Digits without the underscores between them. -/
def plainDigits? (isDigit : Char → Bool) (cs : List Char) : Option (List Char) :=
  let groups := splitOnUnderscore cs
  if groups.all fun group => !group.isEmpty && group.all isDigit then some groups.flatten else none
where
  /-- Parts between underscores. -/
  splitOnUnderscore : List Char → List (List Char)
    | [] => [[]]
    | c :: rest =>
      if c = '_' then [] :: splitOnUnderscore rest
      else match splitOnUnderscore rest with
        | [] => [[c]]
        | part :: parts => (c :: part) :: parts

def valueIn (base : Nat) (digits : List Char) : Nat :=
  digits.foldl (fun n c => n * base + (hexValue? c).getD 0) 0

/-- A whole number that fits into 64 binary digits with a sign. -/
def bounded? (n : Int) : Option Int :=
  if -(Word.signedBound64 : Int) ≤ n ∧ n < Word.signedBound64 then some n else none

/-- The digits of a whole number in decimal, which do not start with zero. -/
def decimalDigits? (cs : List Char) : Option (List Char) :=
  match plainDigits? Char.isDigit cs with
  | some digits => if digits.head? = some '0' ∧ cs.length ≠ 1 then none else some digits
  | none => none

/-- A whole number in another base. -/
def inBase? (base : Nat) (cs : List Char) : Option Int :=
  (plainDigits? (fun c => (hexValue? c).any (· < base)) cs).bind fun digits =>
    bounded? (valueIn base digits)

def integer? (cs : List Char) : Option Int :=
  match cs with
  | '0' :: 'x' :: rest => inBase? 16 rest
  | '0' :: 'o' :: rest => inBase? 8 rest
  | '0' :: 'b' :: rest => inBase? 2 rest
  | _ =>
    let (minus, body) := Decimal.splitSign cs
    (decimalDigits? body).bind fun digits =>
      bounded? (if minus then -(valueIn 10 digits : Int) else valueIn 10 digits)

/-- The digits and sign of an exponent. -/
def exponentText? (cs : List Char) : Option (List Char) :=
  let (minus, body) := Decimal.splitSign cs
  (plainDigits? Char.isDigit body).map fun digits => if minus then '-' :: digits else digits

/-- The digits of a number with a point or an exponent, without underscores. -/
def realText? (cs : List Char) : Option (List Char) := do
  let isMark (c : Char) : Bool := c == 'e' || c == 'E'
  let (mantissa, exponent) := cs.span fun c => !isMark c
  let (whole, places) := mantissa.span (· ≠ '.')
  if places.isEmpty ∧ exponent.isEmpty then none
  let whole ← decimalDigits? whole
  let places ← match places with
    | [] => some []
    | _ :: digits => (plainDigits? Char.isDigit digits).map ('.' :: ·)
  let exponent ← match exponent with
    | [] => some []
    | _ :: digits => (exponentText? digits).map ('e' :: ·)
  return whole ++ places ++ exponent

/-- A number with a point or an exponent, or the words `inf` and `nan`. One that is too large
is no number unless it is negative. -/
def real? (cs : List Char) : Option Binary64 := do
  let (minus, body) := Decimal.splitSign cs
  if body = ['i', 'n', 'f'] then return .infinite minus
  if body = ['n', 'a', 'n'] then return .nan
  let text ← realText? body
  let d ← Decimal.ofText? text
  let x := Binary64.ofDecimal minus d.digits d.exponent
  if x.isInfinite ∧ minus = false then none else some x

/-! ## Dates and times -/

/-- Two digits with a value in a range. -/
def twoDigits? (low high : Nat) : List Char → Option (List Char × List Char)
  | a :: b :: rest =>
    let n := valueIn 10 [a, b]
    if a.isDigit ∧ b.isDigit ∧ low ≤ n ∧ n ≤ high then some ([a, b], rest) else none
  | _ => none

/-- Reads one given character. -/
def mark? (c : Char) : List Char → Option (List Char)
  | d :: rest => if d = c then some rest else none
  | [] => none

def daysIn (year month : Nat) : Nat :=
  if month = 2 then
    if year % 4 = 0 ∧ (year % 100 ≠ 0 ∨ year % 400 = 0) then 29 else 28
  else if [4, 6, 9, 11].contains month then 30
  else 31

/-- Reads a date of the calendar. -/
def date? (cs : List Char) : Option (List Char × List Char) := do
  let year := cs.take 4
  if year.length < 4 ∨ !year.all Char.isDigit then none
  let rest ← mark? '-' (cs.drop 4)
  let (month, rest) ← twoDigits? 1 12 rest
  let rest ← mark? '-' rest
  let (day, rest) ← twoDigits? 1 (daysIn (valueIn 10 year) (valueIn 10 month)) rest
  return (year ++ ['-'] ++ month ++ ['-'] ++ day, rest)

/-- A fraction of a second: nine digits count, and zeros at the end are left out. -/
def fractionText (digits : List Char) : List Char :=
  let kept := ((digits.take 9).reverse.dropWhile (· = '0')).reverse
  if kept.isEmpty then [] else '.' :: kept

/-- How much of a moment is checked. -/
structure MomentBounds where
  lastHour : Nat
  /-- The last hour and minute of a distance from universal time, which is at most a day. -/
  lastOffset : Nat × Nat

/-- The bounds of a moment that is written as a word. -/
def MomentBounds.word : MomentBounds := ⟨23, (23, 59)⟩

/-- The bounds of a moment that is written in quotes. -/
def MomentBounds.quoted : MomentBounds := ⟨24, (24, 99)⟩

/-- Reads a time of day. -/
def time? (bounds : MomentBounds) (cs : List Char) : Option (List Char × List Char) := do
  let (hour, rest) ← twoDigits? 0 bounds.lastHour cs
  let rest ← mark? ':' rest
  let (minute, rest) ← twoDigits? 0 59 rest
  let rest ← mark? ':' rest
  let (second, rest) ← twoDigits? 0 60 rest
  let text := hour ++ [':'] ++ minute ++ [':'] ++ second
  match rest with
  | '.' :: more =>
    let digits := more.takeWhile Char.isDigit
    if digits.isEmpty then none
    else return (text ++ fractionText digits, more.dropWhile Char.isDigit)
  | _ => return (text, rest)

/-- A number below a hundred in two digits. -/
def inTwoDigits (n : Nat) : List Char := [Nat.digitChar (n / 10), Nat.digitChar (n % 10)]

/-- Reads the distance from universal time; no distance has no minus. -/
def offset? (bounds : MomentBounds) (cs : List Char) : Option (List Char × List Char) :=
  match cs with
  | 'Z' :: rest => some (['Z'], rest)
  | 'z' :: rest => some (['Z'], rest)
  | sign :: rest =>
    if sign = '+' ∨ sign = '-' then do
      let (hour, rest) ← twoDigits? 0 bounds.lastOffset.1 rest
      let rest ← mark? ':' rest
      let (minute, rest) ← twoDigits? 0 bounds.lastOffset.2 rest
      let minutes := valueIn 10 hour * 60 + valueIn 10 minute
      if 24 * 60 < minutes then none
      let sign := if minutes = 0 then '+' else sign
      return ([sign] ++ inTwoDigits (minutes / 60) ++ [':'] ++ inTwoDigits (minutes % 60), rest)
    else none
  | [] => none

/-- Reads a time of day with an optional distance from universal time, and nothing more. -/
def timeOfDate? (bounds : MomentBounds) (cs : List Char) : Option (List Char) := do
  let (time, rest) ← time? bounds cs
  if rest.isEmpty then return time
  let (offset, rest) ← offset? bounds rest
  if rest.isEmpty then return time ++ offset else none

/-- Reads a date, a time or both, with a letter or a blank between. -/
def moment? (bounds : MomentBounds) (cs : List Char) : Option (List Char) :=
  match date? cs with
  | some (date, []) => some date
  | some (date, mark :: rest) =>
    if mark = 'T' ∨ mark = 't' ∨ mark = ' ' then
      (timeOfDate? bounds rest).map fun time => date ++ ['T'] ++ time
    else none
  | none =>
    match time? bounds cs with
    | some (time, []) => some time
    | _ => none

/-! ## Words -/

/-- The value of a word. -/
def word? (cs : List Char) : Option TomlValue :=
  if cs = ['t', 'r', 'u', 'e'] then some (.bool true)
  else if cs = ['f', 'a', 'l', 's', 'e'] then some (.bool false)
  else match moment? .word cs with
    | some text => some (.moment (String.ofList text))
    | none => match real? cs with
      | some x => some (.real x)
      | none => (integer? cs).map .integer

/-- Characters of a word. -/
def isWordChar (c : Char) : Bool :=
  c.isAlphanum || c == '_' || c == '+' || c == '-' || c == '.' || c == ':'

/-- Reads a value without quotes and brackets. A blank may stand between a date and a time. -/
def scalar? (cs : List Char) : Option (TomlValue × List Char) :=
  let (word, rest) := cs.span isWordChar
  let single := (word? word).map fun value => (value, rest)
  match date? word, rest with
  | some (date, []), ' ' :: more =>
    let (next, after) := more.span isWordChar
    match timeOfDate? .word next with
    | some time => some (.moment (String.ofList (date ++ ['T'] ++ time)), after)
    | none => single
  | _, _ => single

end Toml

end LoadHarness
