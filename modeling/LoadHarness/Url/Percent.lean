import LoadHarness.Net.Address

/-!
# Percent encoding

A byte that a part of a URL cannot hold is written as a percent sign and two digits in base
sixteen. Each part has its own set of such characters; controls and everything outside ASCII
belong to all of them.
-/

namespace LoadHarness

namespace Percent

/-- A byte as a percent sign and two capital digits. -/
def encodeByte (b : UInt8) : List Char :=
  let digit (n : Nat) : Char := (Nat.digitChar n).toUpper
  ['%', digit (b.toNat / 16), digit (b.toNat % 16)]

/-- Writes a character as it is unless the part cannot hold it. -/
def encodeChar (special : List Char) (c : Char) : List Char :=
  if c.toNat < 32 ∨ 126 < c.toNat ∨ special.contains c then
    (String.singleton c).toUTF8.toList.flatMap encodeByte
  else [c]

def encode (special cs : List Char) : String := String.ofList (cs.flatMap (encodeChar special))

/-- Reads two digits after each percent sign as a byte; other percent signs stay. -/
def decode : List UInt8 → List UInt8
  | [] => []
  | 37 :: a :: b :: rest =>
    match Ipv6.hexDigit? (Char.ofNat a.toNat), Ipv6.hexDigit? (Char.ofNat b.toNat) with
    | some x, some y => UInt8.ofNat (x * 16 + y) :: decode rest
    | _, _ => 37 :: decode (a :: b :: rest)
  | b :: rest => b :: decode rest

/-- What a fragment cannot hold. -/
def fragmentSet : List Char := [' ', '"', '<', '>', Char.ofNat 96]

/-- What a path cannot hold. -/
def pathSet : List Char := fragmentSet ++ ['#', '?', '{', '}']

/-- What a user name or a password cannot hold. -/
def userSet : List Char := pathSet ++ ['/', ':', ';', '=', '@', '[', '\\', ']', '^', '|']

/-- What a query cannot hold. -/
def querySet : List Char := [' ', '"', '#', '<', '>']

/-- What the query of a web address cannot hold. -/
def webQuerySet : List Char := querySet ++ ['\'']

end Percent

end LoadHarness
