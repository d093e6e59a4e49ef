import LoadHarness.Text.HiddenTable
import LoadHarness.Text.Lowercase
import LoadHarness.Url.Domain.Encoding
import LoadHarness.Url.Domain.FoldingTable
import LoadHarness.Url.Percent

/-!
# Letters of names

Each letter of a name stands for others in the one form that the name has, for none at all, or
is not allowed in a name.
-/

namespace LoadHarness

namespace Domain

/-- The two characters that make letters join or not, and that names keep. -/
def nonJoiner : Char := '\u200C'

def joiner : Char := '\u200D'

/-- The form for a character in a block. -/
def FoldingBlock.form? (b : FoldingBlock) (c : Char) : Option (List Char) :=
  ((splitChars '|' b.forms.toList)[c.toNat - b.first]?).filter (!·.isEmpty)

/-- The form for a character in the last block that starts at or before it. -/
def blockForm? (c : Char) : Option (List Char) :=
  ((foldingBlocks.takeWhile (·.first ≤ c.toNat)).getLast?).bind (·.form? c)

/-- What a letter stands for in a name; none for one that no name holds. -/
def fold? (c : Char) : Option (List Char) :=
  if isAscii c then some [c.toLower]
  else if meaningless.contains c then some []
  else match ShiftRun.move? foldingRuns c with
    | some d => some [d]
    | none => match blockForm? c with
      | some form => some form
      | none =>
        if c = nonJoiner ∨ c = joiner then some [c]
        else if CharSet.hidden.contains c ∨ refused.contains c then none
        else some [lowerChar c]

/-- Whether a letter stands for itself. -/
def isFolded (c : Char) : Bool := fold? c == some [c]

end Domain

end LoadHarness
