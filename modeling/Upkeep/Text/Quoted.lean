import Upkeep.Text.Printable

/-!
# Quoted text — a string as it stands in a message

Messages show foreign text between double quotes. Inside them the quote and the backslash are
escaped, the common controls have a letter of their own, and a character that has no glyph or
attaches to the one before it is written by its code point. Paths are quoted by the same rule
except that they escape the single quote as well.
-/

namespace Upkeep

/-- A code point in lower case hexadecimal between braces, after `\u`. -/
def escapedCode (c : Char) : List Char :=
  ['\\', 'u', '\x7b'] ++ Nat.toDigits 16 c.toNat ++ ['\x7d']

/-- One character as it stands between quotes. -/
def quotedChar (escapeSingle : Bool) (c : Char) : List Char :=
  if c = '\x00' then ['\\', '0']
  else if c = '\t' then ['\\', 't']
  else if c = '\r' then ['\\', 'r']
  else if c = '\n' then ['\\', 'n']
  else if c = '\\' || c = '"' then ['\\', c]
  else if escapeSingle && c = '\'' then ['\\', '\'']
  else if isExtending c then escapedCode c
  else if isPrintable c then [c]
  else escapedCode c

/-- The string between double quotes, every character of it escaped where it must be. -/
def quoted (s : String) : String :=
  "\"" ++ String.ofList (s.toList.flatMap (quotedChar false)) ++ "\""

/-- A path between double quotes: the single quote is escaped as well. -/
def quotedPath (s : String) : String :=
  "\"" ++ String.ofList (s.toList.flatMap (quotedChar true)) ++ "\""

end Upkeep
