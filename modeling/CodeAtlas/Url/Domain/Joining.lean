/-
CodeAtlas.Url.Domain.Joining — letters that join, and the signs that keep them
apart or bring them together.

Letters of some scripts are joined to their neighbours: to the next one, to the
one before, or to both. Marks do not stand in the way. The two signs may stand
in a label only where they change something: after a mark that takes away a
vowel, and the one that keeps apart also between two letters that would join.
-/
import CodeAtlas.Url.Domain.Marks

namespace CodeAtlas.Url.Domain

/-- Letters that join both neighbours. -/
def bothRanges : List (Nat × Nat) :=
  [(1568, 1568), (1574, 1574), (1576, 1576), (1578, 1582), (1587, 1599), (1601, 1607),
   (1609, 1610), (1646, 1647), (1657, 1671), (1690, 1727), (1729, 1730), (1740, 1740),
   (1742, 1742), (1744, 1745), (1786, 1788), (1791, 1791), (1810, 1812), (1818, 1821),
   (1823, 1831), (1833, 1833), (1835, 1835), (1837, 1838), (1870, 1880), (1884, 1898),
   (1901, 1904), (1906, 1906), (1909, 1911), (1914, 1919), (1994, 2026), (2113, 2117),
   (2120, 2120), (2122, 2131), (2133, 2133), (2144, 2144), (2146, 2149), (2152, 2152),
   (2182, 2182), (2185, 2189), (2208, 2217), (2223, 2224), (2227, 2232), (2234, 2248),
   (6176, 6264), (6279, 6312), (6314, 6314), (43072, 43121), (68288, 68292),
   (68307, 68310), (68312, 68316), (68318, 68320), (68480, 68480), (68482, 68482),
   (68486, 68488), (68490, 68491), (68493, 68493), (68496, 68496), (68865, 68897),
   (68899, 68899), (69424, 69426), (69428, 69444), (69488, 69491), (69494, 69505),
   (69552, 69552), (69554, 69555), (69560, 69560), (69563, 69564), (69566, 69567),
   (69569, 69569), (69572, 69572), (125218, 125251)]

/-- Letters that join the next one only. -/
def nextRanges : List (Nat × Nat) :=
  [(43122, 43122), (68301, 68301), (68311, 68311), (68864, 68864)]

/-- Letters that join the one before only. -/
def beforeRanges : List (Nat × Nat) :=
  [(1570, 1573), (1575, 1575), (1577, 1577), (1583, 1586), (1608, 1608), (1649, 1651),
   (1672, 1689), (1728, 1728), (1731, 1739), (1741, 1741), (1743, 1743), (1746, 1747),
   (1749, 1749), (1774, 1775), (1808, 1808), (1813, 1817), (1822, 1822), (1832, 1832),
   (1834, 1834), (1836, 1836), (1839, 1839), (1869, 1869), (1881, 1883), (1899, 1900),
   (1905, 1905), (1907, 1908), (1912, 1913), (2112, 2112), (2118, 2119), (2121, 2121),
   (2132, 2132), (2134, 2136), (2151, 2151), (2153, 2154), (2160, 2178), (2190, 2190),
   (2218, 2220), (2222, 2222), (2225, 2226), (2233, 2233), (68293, 68293),
   (68295, 68295), (68297, 68298), (68302, 68306), (68317, 68317), (68321, 68321),
   (68324, 68324), (68481, 68481), (68483, 68485), (68489, 68489), (68492, 68492),
   (68494, 68495), (68497, 68497), (68898, 68898), (69427, 69427), (69492, 69493),
   (69556, 69558), (69561, 69562), (69565, 69565), (69570, 69571)]

/-- The sign that keeps letters apart. -/
def nonJoiner : Nat := 0x200C

/-- The sign that brings letters together. -/
def joiner : Nat := 0x200D

/-- A character that does not stand in the way of joining. -/
def isTransparent (n : Nat) : Bool := n == 0x1e94b || (isFlat n && n != 0x1171e)

/-- The letter joins the next one. -/
def joinsNext (n : Nat) : Bool :=
  Text.inRanges bothRanges n || Text.inRanges nextRanges n

/-- The letter joins the one before. -/
def joinsBefore (n : Nat) : Bool :=
  Text.inRanges bothRanges n || Text.inRanges beforeRanges n

/-- The nearest character that does not let joining through satisfies a
condition. -/
def reaches (p : Nat → Bool) (text : List Nat) : Bool :=
  (text.dropWhile isTransparent).head?.any p

/-- A mark that takes away a vowel stands right before; what is before is given
backwards. -/
def followsKiller (before : List Nat) : Bool :=
  before.head?.any fun n => markClass n == killerClass

/-- The sign that keeps apart may stand between two texts, the first given
backwards. -/
def nonJoinerFits (before after : List Nat) : Bool :=
  followsKiller before || (reaches joinsNext before && reaches joinsBefore after)

end CodeAtlas.Url.Domain
