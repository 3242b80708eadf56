import Upkeep.Text.Ranges

/-!
# Blank characters and trimming

A blank is a character with the white space property. Trimming takes blanks from the ends of
a text. `trimStart` and `trimEnd` are stated on characters; the `String` forms wrap them.
-/

namespace Upkeep

/-- A character that shows as white space: controls U+0009 to U+000D, the spaces and the
line and paragraph separators. -/
def isBlank (c : Char) : Bool :=
  (9 ≤ c.toNat && c.toNat ≤ 13) || c.toNat = 32 || c.toNat = 0x85 || c.toNat = 0xA0 ||
    c.toNat = 0x1680 || (0x2000 ≤ c.toNat && c.toNat ≤ 0x200A) || c.toNat = 0x2028 ||
    c.toNat = 0x2029 || c.toNat = 0x202F || c.toNat = 0x205F || c.toNat = 0x3000

/-- The list without its longest tail whose members all satisfy `p`. -/
def dropEndWhile (p : α → Bool) (xs : List α) : List α :=
  (xs.reverse.dropWhile p).reverse

/-- The text without the blanks before it. -/
def trimStart (text : List Char) : List Char := text.dropWhile isBlank

/-- The text without the blanks after it. -/
def trimEnd (text : List Char) : List Char := dropEndWhile isBlank text

/-- The text without the blanks around it. -/
def trim (text : List Char) : List Char := trimEnd (trimStart text)

/-- The string without the blanks around it. -/
def trimmed (s : String) : String := String.ofList (trim s.toList)

/-- Whether the string holds nothing but blanks. -/
def isBlankString (s : String) : Bool := s.toList.all isBlank

end Upkeep
