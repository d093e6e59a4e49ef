import LoadHarness.Text.Composition
import LoadHarness.Url.Domain.DirectionTable
import LoadHarness.Url.Domain.Encoding
import LoadHarness.Url.Domain.Folding

/-!
# Labels

A label is a part of a name between points. It is written in ASCII and stands for letters of any
script. The letters are in composed form and stand for themselves, a label does not start with
a mark, characters that make letters join or not stand only where that shows, and in a name with
letters from right to left the directions of each label fit together.
-/

namespace LoadHarness

namespace Domain

/-- A label as it is written, and the letters that it stands for. -/
structure Label where
  written : List Char
  letters : List Char

/-! ## Joining -/

/-- The class of marks that take the vowel from a consonant, so that it joins the next one. -/
def viramaClass : Nat := 9

/-- Whether letters join over a character as if it were not there. -/
def isTransparent (c : Char) : Bool := CharSet.nonspacing.contains c || c.toNat == 0x1E94B

/-- Whether the first letter that is not transparent belongs to a set. -/
def meets (set : CharSet) (cs : List Char) : Bool :=
  (cs.dropWhile isTransparent).head?.any set.contains

/-- Whether a character may stand between others; those before it stand last first. -/
def mayJoin (before : List Char) (c : Char) (rest : List Char) : Bool :=
  if c = nonJoiner ∨ c = joiner then
    before.head?.any (combiningClass · == viramaClass)
      || (c == nonJoiner && meets CharSet.joinsNext before && meets CharSet.joinsPrevious rest)
  else true

/-- Whether all characters may stand where they stand. -/
def joinsWell (before : List Char) : List Char → Bool
  | [] => true
  | c :: rest => mayJoin before c rest && joinsWell (c :: before) rest

/-! ## Direction -/

/-- How a character takes part in the direction of a label. -/
inductive Direction where
  | left
  | right
  | digit
  | arabicDigit
  | mark
  | neutral
  deriving DecidableEq

def directionOf (c : Char) : Direction :=
  if CharSet.nonspacing.contains c && !CharSet.directedMarks.contains c then .mark
  else if CharSet.rightToLeft.contains c then .right
  else if CharSet.arabicDigits.contains c then .arabicDigit
  else if CharSet.europeanDigits.contains c then .digit
  else if CharSet.neutral.contains c then .neutral
  else .left

/-- Whether a character makes a name one with letters from right to left. -/
def Direction.isRightward (d : Direction) : Bool := d == .right || d == .arabicDigit

/-- Whether directions fit together. The first one is that of the label, and of the marks at the
end none counts. -/
def directionsFit (ds : List Direction) : Bool :=
  let last := (ds.reverse.dropWhile (· == .mark)).head?
  match ds.head? with
  | none => true
  | some .left => !ds.any Direction.isRightward && (last == some .left || last == some .digit)
  | some .right =>
    !ds.contains .left && last ≠ some .neutral && !(ds.contains .digit && ds.contains .arabicDigit)
  | some _ => false

/-! ## Whole labels -/

/-- Letters that are not ASCII are written by numbers up to this many. -/
def letterLimit : Nat := 1000

/-- Numbers are read up to this many characters. -/
def writtenLimit : Nat := 2000

namespace Label

/-- Whether the letters may stand together in one label. -/
def isWellFormed (l : Label) : Bool :=
  !l.letters.head?.any (fun c => CharSet.nonspacing.contains c || CharSet.spacing.contains c)
    && joinsWell [] l.letters && (l.letters.all isAscii || l.letters.length ≤ letterLimit)

/-- Whether the label has letters from right to left. -/
def isRightward (l : Label) : Bool := l.letters.any fun c => (directionOf c).isRightward

/-- Whether the directions of the letters fit together. -/
def keepsDirection (l : Label) : Bool := directionsFit (l.letters.map directionOf)

/-- A label that is written by numbers. -/
def ofNumbers? (written numbers : List Char) : Option Label :=
  if writtenLimit < numbers.length then none
  else (decodeLabel? numbers).bind fun letters =>
    if letters.all isAscii ∨ !letters.all isFolded ∨ Composition.composed letters ≠ letters then
      none
    else some ⟨written, letters⟩

/-- The label of folded letters in composed form; none for letters that make no label. -/
def ofFolded? (cs : List Char) : Option Label :=
  let label := match cs with
    | 'x' :: 'n' :: '-' :: '-' :: numbers =>
      if cs.all isAscii then ofNumbers? cs numbers else none
    | _ =>
      if cs.all isAscii then some ⟨cs, cs⟩
      else if letterLimit < cs.length then none
      else some ⟨['x', 'n', '-', '-'] ++ encodeLabel cs, cs⟩
  label.filter isWellFormed

end Label

end Domain

end LoadHarness
