/-!
# Blank characters

The characters with the White_Space property, and texts without them at their ends or
anywhere.
-/

namespace LoadHarness

/-- Characters with the White_Space property. -/
def isBlank (c : Char) : Bool :=
  let n := c.toNat
  (9 ≤ n && n ≤ 13) || n == 0x20 || n == 0x85 || n == 0xA0 || n == 0x1680
    || (0x2000 ≤ n && n ≤ 0x200A) || n == 0x2028 || n == 0x2029 || n == 0x202F
    || n == 0x205F || n == 0x3000

/-- The characters without the blank ones at either end. -/
def trimChars (cs : List Char) : List Char :=
  ((cs.dropWhile isBlank).reverse.dropWhile isBlank).reverse

/-- The text without blank characters at either end. -/
def trimBlank (text : String) : String := String.ofList (trimChars text.toList)

/-- Whether a text holds blank characters only. -/
def isBlankText (text : String) : Bool := text.toList.all isBlank

end LoadHarness
