import Upkeep.Text.Utf8

/-!
# Places in a document

A cursor is the text still to be read, with its offset, line and column in the whole text, counted
in characters. A line ends at a carriage return, a line feed or both, at U+0085, U+2028 and U+2029.
-/

namespace Upkeep.Yaml

/-- A character that ends a line. -/
def isBreak (c : Char) : Bool :=
  c = '\n' || c = '\r' || c = '\u0085' || c = '\u2028' || c = '\u2029'

/-- A space or a tab. -/
def isWhite (c : Char) : Bool := c = ' ' || c = '\t'

/-- A character of names: an ASCII letter or digit, `_` or `-`. -/
def isNameChar (c : Char) : Bool := c.isAlphanum || c = '_' || c = '-'

/-- A character that may stand in a document at all. -/
def isAllowed (c : Char) : Bool :=
  c = '\t' || c = '\n' || c = '\r' || (0x20 ≤ c.toNat && c.toNat ≤ 0x7E) || c.toNat = 0x85 ||
    (0xA0 ≤ c.toNat && c.toNat ≤ 0xD7FF) || (0xE000 ≤ c.toNat && c.toNat ≤ 0xFFFD) ||
    0x10000 ≤ c.toNat

/-- The text still to be read, and where it stands. -/
structure Cursor where
  rest : List Char
  index : Nat := 0
  line : Nat := 0
  column : Nat := 0

namespace Cursor

/-- The next character. -/
def head? (c : Cursor) : Option Char := c.rest.head?

/-- The character after so many others. -/
def at? (c : Cursor) (n : Nat) : Option Char := c.rest[n]?

/-- Whether the character after so many others is the given one. -/
def holds (c : Cursor) (char : Char) (n : Nat) : Bool := c.at? n = some char

/-- Whether the character after so many others is one that satisfies `p`. -/
def satisfies (c : Cursor) (p : Char → Bool) (n : Nat) : Bool := (c.at? n).any p

/-- Whether the text ends or a line ends after so many characters. -/
def endsLine (c : Cursor) (n : Nat) : Bool := (c.at? n).all isBreak

/-- Whether the text ends, a line ends or a space or tab stands after so many characters. -/
def endsWord (c : Cursor) (n : Nat) : Bool := (c.at? n).all fun char => isWhite char || isBreak char

/-- The cursor behind so many characters of the line. -/
def skip (c : Cursor) (n : Nat) : Cursor :=
  { c with rest := c.rest.drop n, index := c.index + n, column := c.column + n }

/-- The cursor behind a line's end, if it stands before one. -/
def skipBreak (c : Cursor) : Cursor :=
  match c.rest with
  | '\r' :: '\n' :: rest => ⟨rest, c.index + 2, c.line + 1, 0⟩
  | char :: rest => if isBreak char then ⟨rest, c.index + 1, c.line + 1, 0⟩ else c
  | [] => c

/-- What the line's end before the cursor stands for in a text: a line feed, but the separators
U+2028 and U+2029 stand for themselves. -/
def breakText (c : Cursor) : List Char :=
  match c.rest with
  | char :: _ =>
    if char = '\u2028' || char = '\u2029' then [char] else if isBreak char then ['\n'] else []
  | [] => []

/-- The characters of the line that satisfy `p`, up to the first one that does not. -/
def takeWhile (c : Cursor) (p : Char → Bool) : List Char := c.rest.takeWhile p

/-- The cursor behind these characters. -/
def skipWhile (c : Cursor) (p : Char → Bool) : Cursor := c.skip (c.takeWhile p).length

/-- The cursor behind a comment, if it stands before one. -/
def skipComment (c : Cursor) : Cursor :=
  if c.holds '#' 0 then c.skipWhile fun char => !isBreak char else c

/-- Whether the line starts here with three of the given characters and a word's end. -/
def isMarker (c : Cursor) (char : Char) : Bool :=
  c.column = 0 && c.holds char 0 && c.holds char 1 && c.holds char 2 && c.endsWord 3

/-- Whether a marker of a document's start or end stands here. -/
def isDocumentMarker (c : Cursor) : Bool := c.isMarker '-' || c.isMarker '.'

end Cursor

end Upkeep.Yaml
