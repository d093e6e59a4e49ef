import LoadHarness.Text.CaseTable

/-!
# Lower case

The full lower-case form of a text. Two rules go beyond the map of single characters: a
capital I with a dot keeps its dot as a mark of its own, and a capital sigma that ends a
word takes its final form.
-/

namespace LoadHarness

/-- The lower-case form of a single character. -/
def lowerChar (c : Char) : Char :=
  if c.toNat < 128 then c.toLower
  else (ShiftRun.move? lowerRuns c).getD c

/-- Whether a cased letter comes first once characters without bearing on case are skipped. -/
def meetsCased (cs : List Char) : Bool :=
  match cs.dropWhile CharSet.caseIgnorable.contains with
  | c :: _ => CharSet.cased.contains c
  | [] => false

/-- Lower-cases `rest`, where `before` holds the preceding characters, the last one first.
A sigma is final when a word precedes it and none follows it. -/
def lowerChars (before : List Char) : List Char → List Char
  | [] => []
  | c :: rest =>
    let lowered :=
      if c.toNat = 0x130 then ['i', '\u0307']
      else if c.toNat = 0x3A3 then
        if meetsCased before && !meetsCased rest then ['\u03C2'] else ['\u03C3']
      else [lowerChar c]
    lowered ++ lowerChars (c :: before) rest

/-- The lower-case form of a text. -/
def lowerText (text : String) : String := String.ofList (lowerChars [] text.toList)

end LoadHarness
