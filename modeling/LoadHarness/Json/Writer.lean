import LoadHarness.Binary64.Text
import LoadHarness.Json.Value

/-!
# Writing JSON

The compact form has no blanks at all. The indented form puts every item and member on a line
of its own, two blanks deeper than its container.
-/

namespace LoadHarness

namespace JsonValue

/-- Reals keep a point; from `10^16` on and below `10^-5` they have an exponent. -/
def realLayout : Binary64.Layout := ⟨some (-5), some 16, true, true⟩

def escapeChar (c : Char) : List Char :=
  if c = '"' then ['\\', '"']
  else if c = '\\' then ['\\', '\\']
  else if c = '\n' then ['\\', 'n']
  else if c = '\r' then ['\\', 'r']
  else if c = '\t' then ['\\', 't']
  else if c = '\x08' then ['\\', 'b']
  else if c = '\x0c' then ['\\', 'f']
  else if c.toNat < 32 then
    ['\\', 'u', '0', '0', Nat.digitChar (c.toNat / 16), Nat.digitChar (c.toNat % 16)]
  else [c]

def textText (s : String) : String :=
  String.ofList ('"' :: s.toList.flatMap escapeChar ++ ['"'])

/-- Numbers that are not finite are written as null. -/
def numberText : JsonNumber → String
  | .natural n => toString n
  | .negative n => "-" ++ toString n
  | .real x => if x.isFinite then x.format realLayout else "null"

mutual

/-- The compact form. -/
def compact : JsonValue → String
  | null => "null"
  | bool b => if b then "true" else "false"
  | number n => numberText n
  | string s => textText s
  | array items => "[" ++ String.intercalate "," (compactItems items) ++ "]"
  | object members => "\x7b" ++ String.intercalate "," (compactMembers members) ++ "\x7d"

def compactItems : List JsonValue → List String
  | [] => []
  | v :: rest => compact v :: compactItems rest

def compactMembers : List (String × JsonValue) → List String
  | [] => []
  | (name, v) :: rest => (textText name ++ ":" ++ compact v) :: compactMembers rest

end

/-- A line break and the blanks before a line at a depth. -/
def breakAt (depth : Nat) : String := "\n" ++ String.ofList (List.replicate (2 * depth) ' ')

mutual

/-- The indented form of a value at a depth. -/
def indentedAt (depth : Nat) : JsonValue → String
  | null => "null"
  | bool b => if b then "true" else "false"
  | number n => numberText n
  | string s => textText s
  | array items =>
    if items.isEmpty then "[]"
    else "[" ++ String.intercalate "," (indentedItems (depth + 1) items) ++ breakAt depth ++ "]"
  | object members =>
    if members.isEmpty then "\x7b\x7d"
    else "\x7b" ++ String.intercalate "," (indentedMembers (depth + 1) members)
      ++ breakAt depth ++ "\x7d"

def indentedItems (depth : Nat) : List JsonValue → List String
  | [] => []
  | v :: rest => (breakAt depth ++ indentedAt depth v) :: indentedItems depth rest

def indentedMembers (depth : Nat) : List (String × JsonValue) → List String
  | [] => []
  | (name, v) :: rest =>
    (breakAt depth ++ textText name ++ ": " ++ indentedAt depth v) :: indentedMembers depth rest

end

def indented (v : JsonValue) : String := indentedAt 0 v

end JsonValue

end LoadHarness
