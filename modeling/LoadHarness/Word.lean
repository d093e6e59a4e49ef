/-!
# Machine words

How many numbers fit into words of 32 and of 64 binary digits, and where the numbers of words
with a sign end.
-/

namespace LoadHarness

namespace Word

/-- Numbers of 32 binary digits are below `2 ^ 32`. -/
def bound32 : Nat := 0x100000000

/-- Numbers of 32 binary digits with a sign are below `2 ^ 31`. -/
def signedBound32 : Nat := 0x80000000

/-- Numbers of 64 binary digits are below `2 ^ 64`. -/
def bound64 : Nat := 0x10000000000000000

/-- Numbers of 64 binary digits with a sign are below `2 ^ 63`. -/
def signedBound64 : Nat := 0x8000000000000000

end Word

end LoadHarness
