import Upkeep.Text.Blank

/-!
# Lines, bytes and cuts

Lines end at a line feed, which may follow a carriage return; the last line needs no end.
Columns and limits count the bytes of the UTF-8 form, so a cut at a byte offset is possible
only where a character starts.
-/

namespace Upkeep

/-- The line before the first line feed and the text after it, if there is a line feed. -/
def splitLine : List Char → Option (List Char × List Char)
  | [] => none
  | c :: rest =>
    if c = '\n' then some ([], rest)
    else (splitLine rest).map fun (line, after) => (c :: line, after)

/-- The lines of a text, each with its line feed taken off; text after the last line feed is a
line unless it is empty. -/
def rawLines : List Char → List (List Char × Bool)
  | [] => []
  | c :: rest =>
    if c = '\n' then ([], true) :: rawLines rest
    else match rawLines rest with
      | [] => [([c], false)]
      | (line, ended) :: more => (c :: line, ended) :: more

/-- A line without the carriage return before its line feed. -/
def stripReturn (line : List Char × Bool) : List Char :=
  if line.2 && line.1.getLast? = some '\r' then line.1.dropLast else line.1

/-- The lines of a text without their ends. -/
def lines (text : List Char) : List (List Char) := (rawLines text).map stripReturn

/-- How many bytes the UTF-8 form of the text has. -/
def byteLength (text : List Char) : Nat := (text.map Char.utf8Size).foldr (· + ·) 0

/-- The text from a byte offset on, if a character starts there or the text ends there. -/
def dropBytes? : Nat → List Char → Option (List Char)
  | 0, text => some text
  | _ + 1, [] => none
  | n + 1, c :: rest => if c.utf8Size ≤ n + 1 then dropBytes? (n + 1 - c.utf8Size) rest else none

/-- The text up to a byte offset, if a character starts there or the text ends there. -/
def takeBytes? : Nat → List Char → Option (List Char)
  | 0, _ => some []
  | _ + 1, [] => none
  | n + 1, c :: rest =>
    if c.utf8Size ≤ n + 1 then (takeBytes? (n + 1 - c.utf8Size) rest).map (c :: ·) else none

/-- The text between two byte offsets, if both fall between characters. -/
def sliceBytes? (first last : Nat) (text : List Char) : Option (List Char) :=
  if first ≤ last then (dropBytes? first text).bind (takeBytes? (last - first)) else none

/-- The longest beginning of the text that is at most `limit` bytes long. -/
def firstBytes : (limit : Nat) → List Char → List Char
  | _, [] => []
  | limit, c :: rest =>
    if c.utf8Size ≤ limit then c :: firstBytes (limit - c.utf8Size) rest else []

/-- The longest end of the text that is at most `limit` bytes long. -/
def lastBytes (limit : Nat) (text : List Char) : List Char :=
  (firstBytes limit text.reverse).reverse

/-- Whether the second text ends with the first one. -/
def endsWith (ending text : List Char) : Bool := ending.isSuffixOf text

end Upkeep
