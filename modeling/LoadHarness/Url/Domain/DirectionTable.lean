import LoadHarness.Text.CharSet

/-!
# Direction and joining of letters

Sets of characters that may stand in a name, by the direction in which they are written and by
the sides on which they join their neighbours.
-/

namespace LoadHarness.CharSet

/-- Letters that are written from right to left. -/
def rightToLeft : CharSet := ⟨[
  1470, 1542, 1544, 1545, 1547, 1548, 1549, 1550, 1563, 1632, 1645, 1758, 1765, 1769, 1774, 1776,
  1786, 2038, 2042, 2307, 64434, 64451, 65139, 65536, 67584, 67871, 67872, 68409, 68416, 68912,
  68938, 68974, 68975, 69216, 69248, 69328, 69376, 69632, 124928, 126704]⟩

/-- Digits that belong to scripts written from right to left. -/
def arabicDigits : CharSet := ⟨[1632, 1642, 1643, 1645, 68912, 68938, 69216, 69248]⟩

/-- Digits of no direction of their own. -/
def europeanDigits : CharSet := ⟨[48, 58, 1776, 1786, 66273, 66304]⟩

/-- Characters of no direction. -/
def neutral : CharSet := ⟨[
  0, 97, 123, 223, 247, 248, 697, 699, 706, 720, 722, 750, 751, 881, 885, 887, 1014, 1016, 1418,
  2307, 2546, 2548, 2555, 2556, 2801, 2809, 3059, 3073, 3192, 3199, 3647, 3648, 3898, 3902, 5008,
  5024, 5120, 5121, 5787, 5792, 6107, 6108, 6128, 6160, 6464, 6470, 6622, 6656, 8204, 8526, 8586,
  9014, 9083, 9109, 9110, 9900, 9901, 10240, 10496, 11312, 11493, 11500, 11513, 11520, 11776,
  12293, 12296, 12321, 12336, 12337, 12343, 12347, 12349, 12353, 12448, 12449, 12539, 12540,
  12736, 12784, 19904, 19968, 42128, 42192, 42509, 42512, 42611, 42625, 42752, 42787, 42888,
  42889, 43048, 43056, 43064, 43072, 43124, 43136, 43882, 43968, 64451, 65536, 65793, 65794,
  65856, 65933, 65936, 66000, 67871, 69632, 69714, 69734, 71264, 71296, 73685, 73727, 94178,
  94179, 117760, 118608, 119273, 119488, 119552, 119648, 123647, 124112, 126704, 127312, 127341,
  127344, 127405, 127462, 127584, 131072]⟩

/-- Nonspacing marks that are written from left to right themselves. -/
def directedMarks : CharSet := ⟨[3263, 3264, 3270, 3271, 72199, 72201, 72767, 72768]⟩

/-- Letters that join the letter after them. -/
def joinsNext : CharSet := ⟨[
  1568, 1569, 1574, 1575, 1576, 1577, 1578, 1583, 1587, 1600, 1601, 1608, 1609, 1632, 1646, 1649,
  1657, 1672, 1690, 1728, 1729, 1731, 1740, 1741, 1742, 1743, 1744, 1746, 1786, 1789, 1791, 1792,
  1810, 1813, 1818, 1822, 1823, 1832, 1833, 1834, 1835, 1836, 1837, 1839, 1870, 1881, 1884, 1899,
  1901, 1905, 1906, 1907, 1909, 1912, 1914, 1920, 1994, 2036, 2113, 2118, 2120, 2121, 2122, 2132,
  2133, 2134, 2144, 2145, 2146, 2150, 2152, 2153, 2182, 2183, 2185, 2190, 2191, 2218, 2223, 2225,
  2227, 2233, 2234, 2249, 6151, 6152, 6176, 6272, 6279, 6320, 43072, 43123, 68288, 68293, 68301,
  68302, 68307, 68317, 68318, 68321, 68331, 68335, 68480, 68481, 68482, 68483, 68486, 68489,
  68490, 68492, 68493, 68494, 68496, 68497, 68525, 68527, 68864, 68898, 68899, 68912, 69315,
  69317, 69318, 69328, 69424, 69427, 69428, 69445, 69457, 69460, 69488, 69492, 69494, 69510,
  69552, 69553, 69554, 69556, 69560, 69561, 69563, 69565, 69566, 69568, 69569, 69570, 69572,
  69573, 69578, 69600, 125218, 125264]⟩

/-- Letters that join the letter before them. -/
def joinsPrevious : CharSet := ⟨[
  1568, 1569, 1570, 1600, 1601, 1632, 1646, 1652, 1657, 1748, 1749, 1758, 1774, 1776, 1786, 1789,
  1791, 1792, 1808, 1920, 1994, 2036, 2112, 2142, 2144, 2145, 2146, 2150, 2151, 2179, 2182, 2183,
  2185, 2221, 2222, 2249, 6151, 6152, 6176, 6272, 6279, 6320, 43072, 43122, 68288, 68294, 68295,
  68296, 68297, 68299, 68302, 68311, 68312, 68322, 68324, 68336, 68480, 68505, 68521, 68527,
  68865, 68912, 69314, 69317, 69318, 69328, 69424, 69445, 69457, 69461, 69488, 69510, 69552,
  69553, 69554, 69559, 69560, 69568, 69569, 69573, 69577, 69579, 125218, 125264]⟩

end LoadHarness.CharSet
