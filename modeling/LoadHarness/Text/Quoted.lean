import LoadHarness.Text.HiddenTable

/-!
# Quoted texts

A quoted text stands between double quotes. Quotes and backslashes have a backslash before
them, four controls have a letter, and a character that would not show as itself is written
by its code point.
-/

namespace LoadHarness

/-- The digits of a number in base sixteen, in small letters. -/
def hexDigits (n : Nat) : List Char := Nat.toDigits 16 n

/-- Whether a character shows as itself and apart from its neighbour. -/
def showsAsItself (c : Char) : Bool :=
  if c.toNat < 127 then 32 ≤ c.toNat
  else !CharSet.hidden.contains c && !CharSet.extendsGlyph c

/-- The quoted form of one character. -/
def quoteChar (c : Char) : List Char :=
  if c = '\x00' then ['\\', '0']
  else if c = '\t' then ['\\', 't']
  else if c = '\r' then ['\\', 'r']
  else if c = '\n' then ['\\', 'n']
  else if c = '"' then ['\\', '"']
  else if c = '\\' then ['\\', '\\']
  else if showsAsItself c then [c]
  else ['\\', 'u', '{'] ++ hexDigits c.toNat ++ ['}']

/-- The text between double quotes. -/
def quoted (text : String) : String :=
  String.ofList ('"' :: text.toList.flatMap quoteChar ++ ['"'])

end LoadHarness
