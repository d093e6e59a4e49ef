/-!
# Parts of texts

A text with separators in it consists of the parts between them, some of which may be empty.
-/

namespace LoadHarness

/-- Parts between separators. -/
def splitChars (separator : Char) : List Char → List (List Char)
  | [] => [[]]
  | c :: rest =>
    if c = separator then [] :: splitChars separator rest
    else match splitChars separator rest with
      | [] => [[c]]
      | part :: parts => (c :: part) :: parts

end LoadHarness
