import LoadHarness.Word

/-!
# Encoding of labels

A label with letters outside ASCII is written as its ASCII letters and a sequence of
variable-length numbers, each of which says which letter comes next and where it goes.
-/

namespace LoadHarness

namespace Domain

def isAscii (c : Char) : Bool := c.toNat < 128

/-- A digit of base 36: letters first, then the decimal digits. -/
def digit (n : Nat) : Char :=
  if n < 26 then Char.ofNat ('a'.toNat + n) else Char.ofNat ('0'.toNat + (n - 26))

def digitValue? (c : Char) : Option Nat :=
  if 'a' ≤ c ∧ c ≤ 'z' then some (c.toNat - 'a'.toNat)
  else if c.isDigit then some (c.toNat - '0'.toNat + 26)
  else none

/-- The digit at a place that ends a number, depending on the bias. -/
def threshold (place bias : Nat) : Nat := max 1 (min 26 (place - bias))

/-- Divides a step until it is small, counting places. -/
def settleBias (fuel step places : Nat) : Nat × Nat :=
  match fuel with
  | 0 => (step, places)
  | fuel + 1 => if 455 < step then settleBias fuel (step / 35) (places + 36) else (step, places)

/-- The bias after a step to the given number of letters. -/
def nextBias (step letters : Nat) (first : Bool) : Nat :=
  let damped := if first then step / 700 else step / 2
  let (rest, places) := settleBias 64 (damped + damped / letters) 0
  places + 36 * rest / (rest + 38)

/-- The digits of a number from the lowest place on. -/
def numberDigits (fuel bias place n : Nat) : List Char :=
  let t := threshold place bias
  match fuel with
  | 0 => [digit n]
  | fuel + 1 =>
    if n < t then [digit n]
    else digit (t + (n - t) % (36 - t))
      :: numberDigits fuel bias (place + 36) ((n - t) / (36 - t))

/-- Where the encoding of a label stands. -/
structure Encoding where
  step : Nat
  bias : Nat
  handled : Nat
  out : List Char

/-- Passes over one letter while the letters of code `n` are written. -/
def pass (basic n : Nat) (e : Encoding) (c : Char) : Encoding :=
  if c.toNat < n then { e with step := e.step + 1 }
  else if c.toNat = n then
    { step := 0
      bias := nextBias e.step (e.handled + 1) (e.handled == basic)
      handled := e.handled + 1
      out := e.out ++ numberDigits 64 e.bias 36 e.step }
  else e

/-- Writes the letters of each code in ascending order. -/
def passAll (label : List Char) (basic : Nat) : Nat → List Nat → Encoding → Encoding
  | _, [], e => e
  | previous, n :: rest, e =>
    let e := { e with step := e.step + (n - previous) * (e.handled + 1) }
    let e := label.foldl (pass basic n) e
    passAll label basic (n + 1) rest { e with step := e.step + 1 }

/-- The encoding of a label without its mark. -/
def encodeLabel (label : List Char) : List Char :=
  let basic := label.filter isAscii
  let codes := ((label.filter fun c => !isAscii c).map Char.toNat).mergeSort.eraseDups
  let e := passAll label basic.length 128 codes ⟨0, 72, basic.length, []⟩
  basic ++ (if basic.isEmpty then [] else ['-']) ++ e.out

/-- Reads a number from the front of digits. The weights of its places are below `2 ^ 32`. -/
def readNumber? (bias : Nat) (place weight n : Nat) : List Char → Option (Nat × List Char)
  | [] => none
  | c :: rest =>
    match digitValue? c with
    | none => none
    | some d =>
      let t := threshold place bias
      if d < t then some (n + d * weight, rest)
      else if Word.bound32 ≤ weight * (36 - t) then none
      else readNumber? bias (place + 36) (weight * (36 - t)) (n + d * weight) rest

/-- Reads the letters of a label one after another. -/
def readLetters? (fuel bias code index : Nat) (done cs : List Char) : Option (List Char) :=
  match fuel, cs with
  | _, [] => some done
  | 0, _ => none
  | fuel + 1, cs =>
    match readNumber? bias 36 1 index cs with
    | none => none
    | some (n, rest) =>
      let letters := done.length + 1
      let code := code + n / letters
      let place := n % letters
      if (0xD800 ≤ code ∧ code ≤ 0xDFFF) ∨ 0x10FFFF < code then none
      else
        readLetters? fuel (nextBias (n - index) letters (index == 0)) code (place + 1)
          (done.take place ++ Char.ofNat code :: done.drop place) rest

/-- Reads a label without its mark. The hyphen after the ASCII letters is there only if there
are some. -/
def decodeLabel? (cs : List Char) : Option (List Char) :=
  match cs.reverse.span (· ≠ '-') with
  | (_, []) => readLetters? cs.length 72 128 0 [] cs
  | (_, [_]) => none
  | (rest, _ :: basic) => readLetters? cs.length 72 128 0 basic.reverse rest.reverse

end Domain

end LoadHarness
