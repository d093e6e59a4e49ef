import LoadHarness.Json.Number

/-!
# Reading JSON

A text is one value with blanks around it. Values nest at most 127 deep. Of two members of
one name the later stays, and the members of an object come in the order of their names.
-/

namespace LoadHarness

namespace JsonValue

/-- Containers nest less deep than this. -/
def nestingBound : Nat := 128

def isSpace (c : Char) : Bool := c = ' ' || c = '\n' || c = '\t' || c = '\r'

def skipSpace (cs : List Char) : List Char := cs.dropWhile isSpace

def hexValue? (c : Char) : Option Nat :=
  if c.isDigit then some (c.toNat - '0'.toNat)
  else if 'a' ≤ c ∧ c ≤ 'f' then some (c.toNat - 'a'.toNat + 10)
  else if 'A' ≤ c ∧ c ≤ 'F' then some (c.toNat - 'A'.toNat + 10)
  else none

/-- Four digits in base sixteen. -/
def readHex? : List Char → Option (Nat × List Char)
  | a :: b :: c :: d :: rest => do
    let a ← hexValue? a
    let b ← hexValue? b
    let c ← hexValue? c
    let d ← hexValue? d
    return (((a * 16 + b) * 16 + c) * 16 + d, rest)
  | _ => none

/-- The character of a `\u` escape; two halves of a pair make one character, and a half
alone makes none. -/
def readUnicode? (cs : List Char) : Option (Char × List Char) :=
  match readHex? cs with
  | none => none
  | some (n, rest) =>
    if 0xDC00 ≤ n ∧ n ≤ 0xDFFF then none
    else if 0xD800 ≤ n ∧ n ≤ 0xDBFF then
      match rest with
      | '\\' :: 'u' :: rest =>
        match readHex? rest with
        | some (m, rest) =>
          if 0xDC00 ≤ m ∧ m ≤ 0xDFFF then
            some (Char.ofNat (0x10000 + (n - 0xD800) * 0x400 + (m - 0xDC00)), rest)
          else none
        | none => none
      | _ => none
    else some (Char.ofNat n, rest)

/-- The character of an escape, after its backslash. -/
def readEscape? : List Char → Option (Char × List Char)
  | 'u' :: rest => readUnicode? rest
  | '"' :: rest => some ('"', rest)
  | '\\' :: rest => some ('\\', rest)
  | '/' :: rest => some ('/', rest)
  | 'b' :: rest => some ('\x08', rest)
  | 'f' :: rest => some ('\x0c', rest)
  | 'n' :: rest => some ('\n', rest)
  | 'r' :: rest => some ('\r', rest)
  | 't' :: rest => some ('\t', rest)
  | _ => none

/-- Reads a text up to its closing quote; `done` holds its characters so far, the last one
first. Controls must be escaped. -/
def readText? (fuel : Nat) (done : List Char) (cs : List Char) :
    Option (String × List Char) :=
  match fuel, cs with
  | 0, _ => none
  | _, [] => none
  | fuel + 1, c :: rest =>
    if c = '"' then some (String.ofList done.reverse, rest)
    else if c = '\\' then
      match readEscape? rest with
      | some (e, rest) => readText? fuel (e :: done) rest
      | none => none
    else if c.toNat < 32 then none
    else readText? fuel (c :: done) rest

mutual

/-- Reads a value from the front of a text; `depth` more containers may open. -/
def read? (fuel depth : Nat) (cs : List Char) : Option (JsonValue × List Char) :=
  match fuel with
  | 0 => none
  | fuel + 1 =>
    match skipSpace cs with
    | 'n' :: 'u' :: 'l' :: 'l' :: rest => some (null, rest)
    | 't' :: 'r' :: 'u' :: 'e' :: rest => some (bool true, rest)
    | 'f' :: 'a' :: 'l' :: 's' :: 'e' :: rest => some (bool false, rest)
    | '"' :: rest => (readText? (fuel + 1) [] rest).map fun (s, rest) => (string s, rest)
    | '[' :: rest =>
      if depth = 0 then none
      else match skipSpace rest with
        | ']' :: rest => some (array [], rest)
        | rest => (readItems? fuel (depth - 1) [] rest).map fun (xs, rest) => (array xs, rest)
    | '{' :: rest =>
      if depth = 0 then none
      else match skipSpace rest with
        | '}' :: rest => some (object [], rest)
        | rest =>
          (readMembers? fuel (depth - 1) [] rest).map fun (ms, rest) => (object ms, rest)
    | rest => (JsonNumber.read? rest).map fun (n, rest) => (number n, rest)

/-- Reads the items of an array up to its end, the read ones last first. -/
def readItems? (fuel depth : Nat) (done : List JsonValue) (cs : List Char) :
    Option (List JsonValue × List Char) :=
  match fuel with
  | 0 => none
  | fuel + 1 =>
    match read? fuel depth cs with
    | none => none
    | some (value, rest) =>
      match skipSpace rest with
      | ',' :: rest => readItems? fuel depth (value :: done) rest
      | ']' :: rest => some ((value :: done).reverse, rest)
      | _ => none

/-- Reads the members of an object up to its end. -/
def readMembers? (fuel depth : Nat) (done : List (String × JsonValue)) (cs : List Char) :
    Option (List (String × JsonValue) × List Char) :=
  match fuel with
  | 0 => none
  | fuel + 1 =>
    match skipSpace cs with
    | '"' :: rest =>
      match readText? (fuel + 1) [] rest with
      | none => none
      | some (name, rest) =>
        match skipSpace rest with
        | ':' :: rest =>
          match read? fuel depth rest with
          | none => none
          | some (value, rest) =>
            match skipSpace rest with
            | ',' :: rest => readMembers? fuel depth (insertMember name value done) rest
            | '}' :: rest => some (insertMember name value done, rest)
            | _ => none
        | _ => none
    | _ => none

end

/-- Reads a whole text. Every step consumes a character or ends, so twice the length is
enough fuel. -/
def ofText? (text : String) : Option JsonValue :=
  let cs := text.toList
  match read? (2 * cs.length + 2) (nestingBound - 1) cs with
  | some (value, rest) => if (skipSpace rest).isEmpty then some value else none
  | none => none

/-- Reads a whole body; bytes that are no UTF-8 are no JSON. -/
def ofBytes? (bytes : ByteArray) : Option JsonValue :=
  (String.fromUTF8? bytes).bind ofText?

end JsonValue

end LoadHarness
