import LoadHarness.Text.Quoted
import LoadHarness.Toml.Text

/-!
# Writing TOML

A text is written in the plainest form that needs no escapes: double quotes, single quotes,
three double quotes, three single quotes. If none will do, it stands in double quotes with
escapes, three of them when it has breaks. Arrays of more than one item take a line for each.
-/

namespace LoadHarness

namespace Toml

/-- The longest run of a character. -/
def longestRunOf (quote : Char) (cs : List Char) : Nat :=
  (cs.foldl (fun (run : Nat × Nat) c =>
    if c = quote then (run.1 + 1, max run.2 (run.1 + 1)) else (0, run.2)) (0, 0)).2

/-- Whether a character can only be written as an escape. -/
def isControl (c : Char) : Bool :=
  c != '\t' && c != '\n' && (c.toNat < 32 || c.toNat == 127)

/-- Four digits in base sixteen. -/
def fourDigits (n : Nat) : List Char :=
  let digits := (hexDigits n).map Char.toUpper
  List.replicate (4 - digits.length) '0' ++ digits

/-- Writes characters between double quotes; more than `bound` quotes in a row get a backslash,
and so does a break unless breaks are kept. -/
def escaped (bound : Nat) (breaks : Bool) (run : Nat) : List Char → List Char
  | [] => []
  | c :: rest =>
    if c = '"' then
      if run < bound then c :: escaped bound breaks (run + 1) rest
      else '\\' :: '"' :: escaped bound breaks 0 rest
    else
      let written :=
        if c = '\n' then (if breaks then ['\n'] else ['\\', 'n'])
        else if c = '\t' then ['\\', 't']
        else if c = '\x08' then ['\\', 'b']
        else if c = '\x0c' then ['\\', 'f']
        else if c = '\r' then ['\\', 'r']
        else if c = '\\' then ['\\', '\\']
        else if isControl c then '\\' :: 'u' :: fourDigits c.toNat
        else [c]
      written ++ escaped bound breaks 0 rest

/-- The text between double quotes. -/
def basic (cs : List Char) : List Char := ['"'] ++ escaped 0 false 0 cs ++ ['"']

/-- The text between single quotes. -/
def literal (cs : List Char) : List Char := ['\''] ++ cs ++ ['\'']

/-- The text between three quotes; one with breaks starts on a line of its own. -/
def tripled (quote : Char) (cs written : List Char) : List Char :=
  let marks := List.replicate 3 quote
  marks ++ (if cs.contains '\n' then ['\n'] else []) ++ written ++ marks

def quotedChars (cs : List Char) : List Char :=
  let single := longestRunOf '\'' cs
  let double := longestRunOf '"' cs
  let controls := cs.any isControl
  let breaks := cs.contains '\n'
  let plain := !controls && !cs.contains '\\'
  let tripledBasic := tripled '"' cs (escaped 2 true 0 cs)
  if plain && double == 0 && !breaks then basic cs
  else if !controls && single == 0 && !breaks then literal cs
  else if plain && double ≤ 2 then tripledBasic
  else if !controls && single ≤ 2 then tripled '\'' cs cs
  else if breaks then tripledBasic
  else basic cs

/-- A key: bare if it can be, else in quotes. -/
def keyChars (cs : List Char) : List Char :=
  let controls := cs.any fun c => isControl c || c == '\n'
  if !cs.isEmpty && cs.all isBare then cs
  else if !controls && !cs.contains '\\' && !cs.contains '"' then basic cs
  else if !controls && !cs.contains '\'' then literal cs
  else basic cs

def keyText (key : String) : String := String.ofList (keyChars key.toList)

def textText (s : String) : String := String.ofList (quotedChars s.toList)

mutual

def valueText : TomlValue → String
  | .text s => textText s
  | .integer n => toString n
  | .real x => x.format ⟨none, none, true, false⟩
  | .bool b => if b then "true" else "false"
  | .moment s => s
  | .array [] => "[]"
  | .array [item] => "[" ++ valueText item ++ "]"
  | .array (first :: second :: rest) =>
    "[" ++ itemTexts (first :: second :: rest) ++ "\n]"
  | .table _ entries => "\x7b" ++ inlineTexts entries ++ "\x7d"
  | .tables items => "[" ++ tableTexts items ++ "]"

/-- Items with a line for each. -/
def itemTexts : List TomlValue → String
  | [] => ""
  | item :: rest => "\n    " ++ valueText item ++ "," ++ itemTexts rest

/-- Tables in braces with commas between them. -/
def tableTexts : List (List (String × TomlValue)) → String
  | [] => ""
  | [entries] => "\x7b" ++ inlineTexts entries ++ "\x7d"
  | entries :: rest => "\x7b" ++ inlineTexts entries ++ "\x7d, " ++ tableTexts rest

/-- The entries of a table in braces. -/
def inlineTexts : List (String × TomlValue) → String
  | [] => ""
  | [(key, value)] => " " ++ keyText key ++ " = " ++ valueText value ++ " "
  | (key, value) :: rest =>
    " " ++ keyText key ++ " = " ++ valueText value ++ "," ++ inlineTexts rest

end

/-- A section: its header and a line for each key. -/
def sectionText (name : String) (entries : TomlEntries) : String :=
  "[" ++ keyText name ++ "]\n"
    ++ String.join (entries.map fun (key, value) =>
      keyText key ++ " = " ++ valueText value ++ "\n")

/-- A document of sections, with an empty line between two. -/
def sectionsText (sections : List (String × TomlEntries)) : String :=
  String.intercalate "\n" (sections.map fun (name, entries) => sectionText name entries)

end Toml

end LoadHarness
