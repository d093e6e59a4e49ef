import LoadHarness.Url.Domain.Label

/-!
# Domain names

A name is brought into one form: each letter gives way to what it stands for, and letters and
marks are composed. Then every label must be well formed, and names are written in ASCII.
-/

namespace LoadHarness

namespace Domain

/-- Characters that no name holds. -/
def isForbidden (c : Char) : Bool :=
  c.toNat ≤ 32 || c.toNat == 127
    || ['%', '#', '/', ':', '<', '>', '?', '@', '[', '\\', ']', '^', '|'].contains c

/-- The labels of a name; none for one that is not valid. -/
def labels? (name : List Char) : Option (List Label) := do
  let folded ← name.mapM fold?
  let text := Composition.composed folded.flatten
  if text.any isForbidden then none
  let labels ← (splitChars '.' text).mapM Label.ofFolded?
  if labels.any Label.isRightward ∧ !labels.all Label.keepsDirection then none
  return labels

/-- The ASCII form of a name; none for one that is not valid. -/
def toAscii? (name : List Char) : Option (List Char) :=
  (labels? name).map fun labels => ((labels.map (·.written)).intersperse ['.']).flatten

end Domain

end LoadHarness
