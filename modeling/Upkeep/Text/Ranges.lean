/-!
# Code point ranges — how a character property is written down

A property of characters beyond ASCII is a table of closed ranges of code points.
`CodeRanges.contains` reads such a table; the tables themselves stand in the modules that
are named after the property.
-/

namespace Upkeep

/-- Closed ranges of code points, lowest first. -/
abbrev CodeRanges := Array (Nat × Nat)

/-- Whether some range of the table holds the character. -/
def CodeRanges.contains (ranges : CodeRanges) (c : Char) : Bool :=
  ranges.any fun range => range.1 ≤ c.toNat && c.toNat ≤ range.2

/-- The ASCII letters. -/
def asciiLetter (c : Char) : Bool :=
  ('a' ≤ c && c ≤ 'z') || ('A' ≤ c && c ≤ 'Z')

/-- The ASCII digits. -/
def asciiDigit (c : Char) : Bool := '0' ≤ c && c ≤ '9'

/-- The lower case of an ASCII letter; every other character is its own. -/
def asciiLower (c : Char) : Char :=
  if 'A' ≤ c && c ≤ 'Z' then Char.ofNat (c.toNat + 32) else c

end Upkeep
