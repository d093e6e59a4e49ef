import LoadHarness.Toml.Value

/-!
# Texts and keys in TOML

Texts stand in double quotes with escapes or in single quotes without; three quotes let a text
run over several lines. A break after three quotes does not count, and a backslash at the end
of a line takes the blanks that follow with it.
-/

namespace LoadHarness

namespace Toml

/-- Blank within a line. -/
def isSpace (c : Char) : Bool := c == ' ' || c == '\t'

def skipSpace (cs : List Char) : List Char := cs.dropWhile isSpace

/-- Whether a character may stand in a text or a comment. -/
def isPrintable (c : Char) : Bool := c == '\t' || (32 ≤ c.toNat && c.toNat != 127)

/-- Reads a line break. -/
def lineBreak? : List Char → Option (List Char)
  | '\n' :: rest => some rest
  | '\r' :: '\n' :: rest => some rest
  | _ => none

def hexValue? (c : Char) : Option Nat :=
  if c.isDigit then some (c.toNat - '0'.toNat)
  else if 'a' ≤ c ∧ c ≤ 'f' then some (c.toNat - 'a'.toNat + 10)
  else if 'A' ≤ c ∧ c ≤ 'F' then some (c.toNat - 'A'.toNat + 10)
  else none

/-- The character whose code stands in so many digits of base sixteen. -/
def codeChar? (digits : Nat) (cs : List Char) : Option (Char × List Char) := do
  let front := cs.take digits
  if front.length < digits then none
  let values ← front.mapM hexValue?
  let code := values.foldl (fun n d => n * 16 + d) 0
  if code < 0xD800 ∨ (0xDFFF < code ∧ code < 0x110000) then
    some (Char.ofNat code, cs.drop digits)
  else none

/-- The character of an escape, after its backslash. -/
def escape? : List Char → Option (Char × List Char)
  | 'b' :: rest => some ('\x08', rest)
  | 't' :: rest => some ('\t', rest)
  | 'n' :: rest => some ('\n', rest)
  | 'f' :: rest => some ('\x0c', rest)
  | 'r' :: rest => some ('\r', rest)
  | '"' :: rest => some ('"', rest)
  | '\\' :: rest => some ('\\', rest)
  | 'u' :: rest => codeChar? 4 rest
  | 'U' :: rest => codeChar? 8 rest
  | _ => none

/-- Reads up to a double quote; `done` holds the characters so far, the last one first. -/
def basicLine? (fuel : Nat) (done cs : List Char) : Option (String × List Char) :=
  match fuel, cs with
  | 0, _ => none
  | _, [] => none
  | fuel + 1, c :: rest =>
    if c = '"' then some (String.ofList done.reverse, rest)
    else if c = '\\' then
      (escape? rest).bind fun (e, rest) => basicLine? fuel (e :: done) rest
    else if isPrintable c then basicLine? fuel (c :: done) rest
    else none

/-- Reads up to a single quote. -/
def literalLine? (cs : List Char) : Option (String × List Char) :=
  match cs.span (· ≠ '\'') with
  | (text, _ :: rest) => if text.all isPrintable then some (String.ofList text, rest) else none
  | _ => none

/-- What a run of quotes means inside a text between three of them: up to two are part of the
text, three close it, and one or two more go before the closing ones. -/
inductive QuoteRun where
  | inside (count : Nat)
  | closing (extra : Nat)

def quoteRun? (count : Nat) : Option QuoteRun :=
  if count < 3 then some (.inside count)
  else if count ≤ 5 then some (.closing (count - 3))
  else none

/-- The text without blanks and breaks at its start. -/
def skipBlankLines : List Char → List Char
  | '\r' :: '\n' :: rest => skipBlankLines rest
  | c :: rest => if isSpace c || c == '\n' then skipBlankLines rest else c :: rest
  | [] => []

/-- What follows the blanks after a backslash that ends a line. -/
def afterLineEnd? (cs : List Char) : Option (List Char) :=
  (lineBreak? (skipSpace cs)).map skipBlankLines

/-- Reads up to three quotes of a kind, with escapes or without. -/
def lines? (quote : Char) (escapes : Bool) (fuel : Nat) (done cs : List Char) :
    Option (String × List Char) :=
  match fuel, cs with
  | 0, _ => none
  | _, [] => none
  | fuel + 1, c :: rest =>
    if c = quote then
      let count := (cs.takeWhile (· = quote)).length
      match quoteRun? count with
      | none => none
      | some (.inside n) =>
        lines? quote escapes fuel (List.replicate n quote ++ done) (cs.drop count)
      | some (.closing n) =>
        some (String.ofList (List.replicate n quote ++ done).reverse, cs.drop count)
    else if c = '\\' ∧ escapes then
      match afterLineEnd? rest with
      | some rest => lines? quote escapes fuel done rest
      | none => (escape? rest).bind fun (e, rest) => lines? quote escapes fuel (e :: done) rest
    else
      match lineBreak? cs with
      | some rest => lines? quote escapes fuel ('\n' :: done) rest
      | none => if isPrintable c then lines? quote escapes fuel (c :: done) rest else none

/-- The text without a break at its start. -/
def skipFirstBreak (cs : List Char) : List Char := (lineBreak? cs).getD cs

/-- Reads a text of any kind. -/
def text? (cs : List Char) : Option (String × List Char) :=
  match cs with
  | '"' :: '"' :: '"' :: rest => lines? '"' true (cs.length + 1) [] (skipFirstBreak rest)
  | '\'' :: '\'' :: '\'' :: rest => lines? '\'' false (cs.length + 1) [] (skipFirstBreak rest)
  | '"' :: rest => basicLine? (cs.length + 1) [] rest
  | '\'' :: rest => literalLine? rest
  | _ => none

/-! ## Keys -/

/-- Whether a character may stand in a key without quotes. -/
def isBare (c : Char) : Bool := c.isAlphanum || c == '_' || c == '-'

/-- Reads one part of a key. -/
def simpleKey? (cs : List Char) : Option (String × List Char) :=
  match cs with
  | '"' :: rest => basicLine? (cs.length + 1) [] rest
  | '\'' :: rest => literalLine? rest
  | _ =>
    let (key, rest) := cs.span isBare
    if key.isEmpty then none else some (String.ofList key, rest)

/-- A key has at most this many parts, and values nest at most this deep. -/
def nestingBound : Nat := 79

/-- Reads a key of up to `fuel` parts with points between them. -/
def dottedKey? (fuel : Nat) (cs : List Char) : Option (List String × List Char) :=
  match fuel with
  | 0 => none
  | fuel + 1 =>
    match simpleKey? (skipSpace cs) with
    | none => none
    | some (key, rest) =>
      match skipSpace rest with
      | '.' :: rest => (dottedKey? fuel rest).map fun (keys, rest) => (key :: keys, rest)
      | rest => some ([key], rest)

end Toml

end LoadHarness
