import LoadHarness.Binary64.Shortest

/-!
# The text of a number

A number is written with its shortest digits in a given layout, or with a set number of
places. It is read from a decimal literal; both directions agree on every finite number.
-/

namespace LoadHarness

namespace Decimal

/-- The value of a run of decimal digits. -/
def valueOf (digits : List Char) : Nat :=
  digits.foldl (fun n c => n * 10 + (c.toNat - '0'.toNat)) 0

/-- Splits an optional sign from the front; true for a minus. -/
def splitSign : List Char → Bool × List Char
  | '-' :: rest => (true, rest)
  | '+' :: rest => (false, rest)
  | cs => (false, cs)

/-- Reads what follows the digits: nothing, or `e` with a signed whole number. -/
def exponentOf? : List Char → Option Int
  | [] => some 0
  | c :: rest =>
    if c == 'e' || c == 'E' then
      let (minus, digits) := splitSign rest
      if digits.isEmpty || !digits.all Char.isDigit then none
      else some (if minus then -(valueOf digits : Int) else valueOf digits)
    else none

/-- Reads unsigned digits with an optional point and exponent. At least one digit stands
before or after the point. -/
def ofText? (text : List Char) : Option Decimal :=
  let whole := text.takeWhile Char.isDigit
  let rest := text.dropWhile Char.isDigit
  let (places, rest) := match rest with
    | '.' :: tail => (tail.takeWhile Char.isDigit, tail.dropWhile Char.isDigit)
    | _ => ([], rest)
  if whole.isEmpty && places.isEmpty then none
  else (exponentOf? rest).map fun e => ⟨valueOf (whole ++ places), e - places.length⟩

end Decimal

namespace Binary64

/-- Reads a literal: an optional sign, then `inf`, `infinity` or `nan` in any case, or a
decimal number. -/
def ofChars? (text : List Char) : Option Binary64 :=
  let (minus, body) := Decimal.splitSign text
  let word := String.ofList (body.map Char.toLower)
  if word == "inf" || word == "infinity" then some (.infinite minus)
  else if word == "nan" then some .nan
  else (Decimal.ofText? body).map fun d => ofDecimal minus d.digits d.exponent

def ofText? (text : String) : Option Binary64 := ofChars? text.toList

/-- How digits are laid out: from which power of ten to which they are written with a
point, whether a whole number keeps `.0`, and whether a positive exponent has a sign. -/
structure Layout where
  /-- Least power of ten of the first digit that is written with a point; always, if none. -/
  least : Option Int
  /-- First power of ten that needs an exponent; never, if none. -/
  bound : Option Int
  wholePoint : Bool
  plusExponent : Bool

/-- Positional digits only. -/
def Layout.plain : Layout := ⟨none, none, false, false⟩

/-- Digits with the point after the first `point` of them, padded with zeros. -/
def positional (wholePoint : Bool) (digits : String) (point : Int) : String :=
  let n := digits.length
  if point ≤ 0 then "0." ++ String.ofList (List.replicate (-point).toNat '0') ++ digits
  else if point.toNat ≥ n then
    digits ++ String.ofList (List.replicate (point.toNat - n) '0')
      ++ (if wholePoint then ".0" else "")
  else
    String.ofList (digits.toList.take point.toNat) ++ "."
      ++ String.ofList (digits.toList.drop point.toNat)

/-- Digits with the point after the first one and a power of ten. -/
def scientific (plus : Bool) (digits : String) (exponent : Int) : String :=
  let rest := String.ofList (digits.toList.drop 1)
  String.ofList (digits.toList.take 1) ++ (if rest.isEmpty then "" else "." ++ rest) ++ "e"
    ++ (if exponent < 0 then "-" else if plus then "+" else "")
    ++ toString exponent.natAbs

def layOut (layout : Layout) (d : Decimal) : String :=
  let digits := Nat.repr d.digits
  let point : Int := d.exponent + digits.length
  let first := point - 1
  let small := layout.least.any (first < ·)
  let large := layout.bound.any (· ≤ first)
  if d.digits ≠ 0 && (small || large) then scientific layout.plusExponent digits first
  else if d.digits = 0 then (if layout.wholePoint then "0.0" else "0")
  else positional layout.wholePoint digits point

/-- The text of a number in a layout. -/
def format (layout : Layout) : Binary64 → String
  | .nan => "NaN"
  | .infinite s => if s then "-inf" else "inf"
  | .finite s n _ =>
    (if s then "-" else "")
      ++ layOut layout (if n = 0 then ⟨0, 0⟩ else shortest n)

/-- The shortest text that reads back, without an exponent. -/
def toText (x : Binary64) : String := x.format .plain

instance : ToString Binary64 := ⟨toText⟩

/-- The text with exactly `places` digits after the point, the exact value rounded with
a half to the even neighbour. -/
def toFixed (places : Nat) : Binary64 → String
  | .nan => "NaN"
  | .infinite s => if s then "-inf" else "inf"
  | .finite s n _ =>
    let tens := Nat.pow 10 places
    let scaled := divNearest (n * tens) unit
    let whole := scaled / tens
    let part := toString (scaled % tens)
    (if s then "-" else "") ++ toString whole
      ++ (if places = 0 then ""
        else "." ++ String.ofList (List.replicate (places - part.length) '0') ++ part)

end Binary64

end LoadHarness
