import LoadHarness.Text.CompositionTable
import LoadHarness.Text.MarkTable

/-!
# Composed form of texts

A letter and its marks can often be written in several ways. In the composed form the marks of a
letter stand in the order of their classes, and a letter is one character with as many of its
marks as there is a character for. Syllables of the Korean script are made of their letters by
counting instead of a table.
-/

namespace LoadHarness

/-- The class of a character among marks; zero for one that is no mark. -/
def combiningClass (c : Char) : Nat :=
  if c.toNat < 0x300 then 0
  else ((combiningClasses.find? (·.2.contains c)).map Prod.fst).getD 0

namespace CombiningPart

/-- The first parts with what they become. -/
def pairs (p : CombiningPart) : List (Char × Char) := p.bases.toList.zip p.wholes.toList

end CombiningPart

namespace Composition

/-! ## Korean syllables -/

/-- The first syllable; the others follow in the order of their letters. -/
def firstSyllable : Nat := 0xAC00

def leadCount : Nat := 19

def vowelCount : Nat := 21

/-- A syllable has one of this many tails, the first of which is none at all. -/
def tailCount : Nat := 28

def firstLead : Nat := 0x1100

def firstVowel : Nat := 0x1161

/-- The code point before the first tail that is a letter. -/
def noTail : Nat := 0x11A7

/-- The place of a character among `count` ones from `first` on. -/
def place? (first count : Nat) (c : Char) : Option Nat :=
  if first ≤ c.toNat ∧ c.toNat < first + count then some (c.toNat - first) else none

/-- The place of a character among all syllables. -/
def syllable? (c : Char) : Option Nat :=
  place? firstSyllable (leadCount * vowelCount * tailCount) c

/-- The letters of a syllable. -/
def syllableLetters (n : Nat) : List Char :=
  let lead := Char.ofNat (firstLead + n / tailCount / vowelCount)
  let vowel := Char.ofNat (firstVowel + n / tailCount % vowelCount)
  if n % tailCount = 0 then [lead, vowel] else [lead, vowel, Char.ofNat (noTail + n % tailCount)]

/-- The syllable that a letter, or a syllable without a tail, makes with the next letter. -/
def joinSyllable? (a b : Char) : Option Char :=
  match place? firstLead leadCount a, place? firstVowel vowelCount b with
  | some lead, some vowel =>
    some (Char.ofNat (firstSyllable + (lead * vowelCount + vowel) * tailCount))
  | _, _ =>
    match syllable? a, place? (noTail + 1) (tailCount - 1) b with
    | some n, some _ =>
      if n % tailCount = 0 then some (Char.ofNat (a.toNat + (b.toNat - noTail))) else none
    | _, _ => none

/-! ## Parts of characters -/

/-- The two parts of a character. -/
def parts? (c : Char) : Option (Char × Char) :=
  if c.toNat < 0xC0 then none
  else combiningParts.findSome? fun part =>
    (part.pairs.find? (·.2 == c)).map fun pair => (pair.1, Char.ofNat part.code)

/-- The character that two parts make. -/
def whole? (a b : Char) : Option Char :=
  match joinSyllable? a b with
  | some c => some c
  | none => combiningParts.findSome? fun part =>
      if part.code = b.toNat then (part.pairs.find? (·.1 == a)).map Prod.snd else none

/-- Characters have at most this many marks of their own. -/
def markLimit : Nat := 4

/-- Takes marks off a character until it has no parts. -/
def splitMarks : Nat → Char → List Char
  | 0, c => [c]
  | fuel + 1, c =>
    match parts? c with
    | some (base, mark) => splitMarks fuel base ++ [mark]
    | none => [c]

/-- The last parts of a character. -/
def split (c : Char) : List Char :=
  match syllable? c with
  | some n => syllableLetters n
  | none => splitMarks markLimit c

/-! ## Order and composition -/

/-- Puts a character behind others, which stand last first. A mark goes before marks of higher
classes. -/
def place (c : Char) : List Char → List Char
  | [] => [c]
  | d :: rest =>
    if combiningClass c ≠ 0 ∧ combiningClass c < combiningClass d then d :: place c rest
    else c :: d :: rest

/-- Characters with their marks in order. -/
def ordered (cs : List Char) : List Char := (cs.foldl (fun done c => place c done) []).reverse

/-- Joins a character with the marks after it. `kept` are those that stay apart, the last one
first; a mark of no higher class than the last of them cannot be reached any more. -/
def joinMarks (base : Char) (kept : List Char) : List Char → List Char
  | [] => base :: kept.reverse
  | c :: rest =>
    let isHidden := kept.head?.any fun d => combiningClass c ≤ combiningClass d
    match if isHidden then none else whole? base c with
    | some whole => joinMarks whole kept rest
    | none =>
      if combiningClass c = 0 then base :: kept.reverse ++ joinMarks c [] rest
      else joinMarks base (c :: kept) rest

/-- Joins all characters with their marks; marks at the start have nothing to join. -/
def joined : List Char → List Char
  | [] => []
  | c :: rest => if combiningClass c = 0 then joinMarks c [] rest else c :: joined rest

/-- The composed form. -/
def composed (cs : List Char) : List Char := joined (ordered (cs.flatMap split))

end Composition

end LoadHarness
