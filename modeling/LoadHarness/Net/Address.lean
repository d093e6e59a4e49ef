import LoadHarness.Text.Quoted
import LoadHarness.Text.Split
import LoadHarness.Word

/-!
# Network addresses

Addresses of four and of sixteen bytes, and socket addresses with a port. Addresses of
sixteen bytes are written in eight groups; the longest run of zero groups becomes `::`.
-/

namespace LoadHarness

/-- An address of four bytes, as one number. -/
structure Ipv4 where
  value : Nat
  deriving DecidableEq

/-- An address of sixteen bytes, as eight groups of two. -/
structure Ipv6 where
  groups : List Nat
  deriving DecidableEq

/-- The value of decimal digits. -/
def decimalValue (cs : List Char) : Nat :=
  cs.foldl (fun n c => n * 10 + (c.toNat - '0'.toNat)) 0

namespace Ipv4

def ofBytes (a b c d : Nat) : Ipv4 := ⟨((a * 256 + b) * 256 + c) * 256 + d⟩

/-- Four decimal bytes with points between them. -/
def toText (a : Ipv4) : String :=
  String.intercalate "."
    ([a.value / 16777216, a.value / 65536 % 256, a.value / 256 % 256, a.value % 256].map
      fun n => toString n)

/-- A byte in decimal digits, without leading zeros. -/
def byte? (cs : List Char) : Option Nat :=
  if cs.isEmpty ∨ 3 < cs.length ∨ !cs.all Char.isDigit ∨ (cs.head? = some '0' ∧ cs.length ≠ 1)
  then none
  else if decimalValue cs < 256 then some (decimalValue cs) else none

/-- Reads four bytes with points between them. -/
def ofChars? (cs : List Char) : Option Ipv4 :=
  match (splitChars '.' cs).mapM byte? with
  | some [a, b, c, d] => some (ofBytes a b c d)
  | _ => none

end Ipv4

namespace Ipv6

def hexDigit? (c : Char) : Option Nat :=
  if c.isDigit then some (c.toNat - '0'.toNat)
  else if 'a' ≤ c ∧ c ≤ 'f' then some (c.toNat - 'a'.toNat + 10)
  else if 'A' ≤ c ∧ c ≤ 'F' then some (c.toNat - 'A'.toNat + 10)
  else none

/-- A group of one to four digits in base sixteen. -/
def group? (cs : List Char) : Option Nat :=
  if cs.isEmpty ∨ 4 < cs.length then none
  else (cs.mapM hexDigit?).map fun ds => ds.foldl (fun n d => n * 16 + d) 0

/-- Groups; the last part may be an address of four bytes, which makes two groups. -/
def groups? : List (List Char) → Option (List Nat)
  | [] => some []
  | [last] =>
    match group? last with
    | some g => some [g]
    | none => (Ipv4.ofChars? last).map fun a => [a.value / 65536, a.value % 65536]
  | part :: rest => do
    let g ← group? part
    let gs ← groups? rest
    return g :: gs

/-- Reads groups with colons between them; an empty text holds none. -/
def groupsOf? (cs : List Char) : Option (List Nat) :=
  if cs.isEmpty then some [] else groups? (splitChars ':' cs)

/-- Splits at the first `::`. -/
def splitGap : List Char → Option (List Char × List Char)
  | ':' :: ':' :: rest => some ([], rest)
  | c :: rest => (splitGap rest).map fun (before, after) => (c :: before, after)
  | [] => none

/-- Reads an address: eight groups, or up to seven of them around `::`. -/
def ofChars? (cs : List Char) : Option Ipv6 :=
  match splitGap cs with
  | none =>
    match groupsOf? cs with
    | some gs => if gs.length = 8 then some ⟨gs⟩ else none
    | none => none
  | some (before, after) =>
    if before.contains '.' then none
    else match groupsOf? before, groupsOf? after with
      | some left, some right =>
        if left.length + right.length ≤ 7 then
          some ⟨left ++ List.replicate (8 - left.length - right.length) 0 ++ right⟩
        else none
      | _, _ => none

/-- The number of zero groups at the front. -/
def zeroRun (gs : List Nat) : Nat := (gs.takeWhile (· == 0)).length

/-- Where the longest run of zero groups starts and how long it is; the first of equal ones. -/
def longestRun (gs : List Nat) : Nat × Nat :=
  (List.range gs.length).foldl
    (fun best i =>
      let n := zeroRun (gs.drop i)
      if best.2 < n then (i, n) else best)
    (0, 0)

def groupTexts (gs : List Nat) : String :=
  String.intercalate ":" (gs.map fun g => String.ofList (hexDigits g))

def toText (a : Ipv6) : String :=
  let (start, length) := longestRun a.groups
  if length < 2 then groupTexts a.groups
  else groupTexts (a.groups.take start) ++ "::" ++ groupTexts (a.groups.drop (start + length))

/-- The address of four bytes that the address stands for, if it does. -/
def mapped? (a : Ipv6) : Option Ipv4 :=
  match a.groups with
  | [0, 0, 0, 0, 0, 65535, high, low] => some ⟨high * 65536 + low⟩
  | _ => none

end Ipv6

/-- Where a server listens. -/
inductive SocketAddress where
  | v4 (address : Ipv4) (port : Nat)
  | v6 (address : Ipv6) (scope : Nat) (port : Nat)
  deriving DecidableEq

namespace SocketAddress

def toText : SocketAddress → String
  | v4 address port => address.toText ++ ":" ++ toString port
  | v6 address scope port =>
    let inner := match address.mapped? with
      | some a => "::ffff:" ++ a.toText
      | none => address.toText
    "[" ++ inner ++ (if scope = 0 then "" else "%" ++ toString scope) ++ "]:" ++ toString port

/-- A number in decimal digits below a bound. -/
def below? (bound : Nat) (cs : List Char) : Option Nat :=
  if cs.isEmpty ∨ !cs.all Char.isDigit then none
  else if decimalValue cs < bound then some (decimalValue cs) else none

/-- Splits at the last colon. -/
def splitPort (cs : List Char) : Option (List Char × List Char) :=
  match cs.reverse.span (· ≠ ':') with
  | (port, _ :: address) => some (address.reverse, port.reverse)
  | _ => none

/-- Reads an address in brackets, with an optional scope after a percent sign. -/
def bracketed? (cs : List Char) : Option (Ipv6 × Nat) :=
  match cs with
  | '[' :: rest =>
    if rest.getLast? ≠ some ']' then none
    else match rest.dropLast.span (· ≠ '%') with
      | (address, []) => (Ipv6.ofChars? address).map (·, 0)
      | (address, _ :: scope) => do
        let a ← Ipv6.ofChars? address
        let s ← below? Word.bound32 scope
        return (a, s)
  | _ => none

def ofText? (text : String) : Option SocketAddress := do
  let (address, port) ← splitPort text.toList
  let port ← below? 65536 port
  match Ipv4.ofChars? address with
  | some a => return v4 a port
  | none =>
    let (a, scope) ← bracketed? address
    return v6 a scope port

/-- What is wrong with a text that is no socket address. -/
def invalidMessage : String := "invalid socket address syntax"

end SocketAddress

end LoadHarness
