import Upkeep.Yaml.Cursor
import Upkeep.Yaml.Token

/-!
# Scalars — how a text is written in a document

Quoted and plain scalars run over lines: a single line end inside them is a blank, and of several
ones all but the first are kept. A literal scalar keeps its lines, a folded one joins those that do
not start with a blank. The readers return nothing where a scalar is not well-formed.
-/

namespace Upkeep.Yaml

/-! ### Gaps between words -/

/-- What stands between two words of a scalar: blanks, or line ends with blanks around them. -/
structure Gap where
  /-- Whether there is a line end. -/
  folded : Bool := false
  blanks : List Char := []
  /-- What the first line end stands for. -/
  first : List Char := []
  /-- What the other line ends stand for. -/
  others : List Char := []

/-- What a gap contributes to the scalar. -/
def Gap.text (gap : Gap) : List Char :=
  if !gap.folded then gap.blanks
  else if gap.first = ['\n'] then if gap.others.isEmpty then [' '] else gap.others
  else gap.first ++ gap.others

/-- Reads a gap. On a new line no tab may stand left of the column `indent`. -/
def readGap (indent : Nat) : Nat → Gap → Cursor → Option (Gap × Cursor)
  | 0, gap, c => some (gap, c)
  | fuel + 1, gap, c =>
    match c.head? with
    | none => some (gap, c)
    | some char =>
      if isWhite char then
        if gap.folded && c.column < indent && char = '\t' then none
        else if gap.folded then readGap indent fuel gap (c.skip 1)
        else readGap indent fuel { gap with blanks := gap.blanks ++ [char] } (c.skip 1)
      else if isBreak char then
        if gap.folded then
          readGap indent fuel { gap with others := gap.others ++ c.breakText } c.skipBreak
        else readGap indent fuel ⟨true, [], c.breakText, []⟩ c.skipBreak
      else some (gap, c)

/-! ### Quoted scalars -/

/-- The value of a hexadecimal digit. -/
def hexDigit? (c : Char) : Option Nat :=
  if c.isDigit then some (c.toNat - 48)
  else if 'a' ≤ c && c ≤ 'f' then some (c.toNat - 87)
  else if 'A' ≤ c && c ≤ 'F' then some (c.toNat - 55)
  else none

/-- The value of hexadecimal digits, if all of the characters are such. -/
def hexValue? (digits : List Char) : Option Nat :=
  digits.foldlM (fun value c => (hexDigit? c).map (value * 16 + ·)) 0

/-- The character that a letter after a backslash stands for. -/
def simpleEscape? : Char → Option Char
  | '0' => some '\x00'
  | 'a' => some '\x07'
  | 'b' => some '\x08'
  | 't' => some '\t'
  | '\t' => some '\t'
  | 'n' => some '\n'
  | 'v' => some '\x0B'
  | 'f' => some '\x0C'
  | 'r' => some '\r'
  | 'e' => some '\x1B'
  | ' ' => some ' '
  | '"' => some '"'
  | '/' => some '/'
  | '\\' => some '\\'
  | 'N' => some '\u0085'
  | '_' => some '\u00A0'
  | 'L' => some '\u2028'
  | 'P' => some '\u2029'
  | _ => none

/-- How many digits follow a letter after a backslash that gives a character by its number. -/
def escapeDigits? : Char → Option Nat
  | 'x' => some 2
  | 'u' => some 4
  | 'U' => some 8
  | _ => none

/-- The character of an escape and the number of characters that it takes. -/
def escape? (c : Cursor) : Option (Char × Nat) := do
  let letter ← c.at? 1
  match simpleEscape? letter with
  | some char => return (char, 2)
  | none =>
    let count ← escapeDigits? letter
    let digits := (c.rest.drop 2).take count
    if digits.length < count then none
    let value ← hexValue? digits
    if (0xD800 ≤ value && value ≤ 0xDFFF) || 0x10FFFF < value then none
    return (Char.ofNat value, 2 + count)

/-- Reads the word of a quoted scalar up to a gap, the closing quote or an escaped line end; the
flag tells whether it ends at an escaped line end. The text is collected in reverse. -/
def quotedWord (single : Bool) : Nat → List Char → Cursor → Option (List Char × Bool × Cursor)
  | 0, done, c => some (done, false, c)
  | fuel + 1, done, c =>
    match c.head? with
    | none => some (done, false, c)
    | some char =>
      if isWhite char || isBreak char then some (done, false, c)
      else if single && char = '\'' && c.holds '\'' 1 then
        quotedWord single fuel ('\'' :: done) (c.skip 2)
      else if char = (if single then '\'' else '"') then some (done, false, c)
      else if !single && char = '\\' then
        if c.satisfies isBreak 1 then some (done, true, (c.skip 1).skipBreak)
        else match escape? c with
          | none => none
          | some (escaped, length) => quotedWord single fuel (escaped :: done) (c.skip length)
      else quotedWord single fuel (char :: done) (c.skip 1)

/-- Reads a quoted scalar behind its opening quote, up to behind the closing one. -/
def quotedText (single : Bool) : Nat → List Char → Cursor → Option (List Char × Cursor)
  | 0, _, _ => none
  | fuel + 1, done, c =>
    if c.isDocumentMarker || c.rest.isEmpty then none
    else do
      let (done, continued, c) ← quotedWord single (c.rest.length + 1) done c
      if c.holds (if single then '\'' else '"') 0 then return (done.reverse, c.skip 1)
      let (gap, c) ← readGap 0 (c.rest.length + 1) { folded := continued } c
      quotedText single fuel (gap.text.reverse ++ done) c

/-! ### Plain scalars -/

/-- A character that ends a plain scalar in a flow collection. -/
def isFlowIndicator (c : Char) : Bool := c = ',' || c = '[' || c = ']' || c = '\x7b' || c = '\x7d'

/-- Reads the word of a plain scalar up to a gap or an indicator. A colon that is part of the word
may not stand before an indicator in a flow collection. -/
def plainWord (flow : Bool) : Nat → List Char → Cursor → Option (List Char × Cursor)
  | 0, done, c => some (done, c)
  | fuel + 1, done, c =>
    match c.head? with
    | none => some (done, c)
    | some char =>
      if isWhite char || isBreak char then some (done, c)
      else if flow && char = ':' && c.satisfies (fun next => isFlowIndicator next || next = '?') 1
        then none
      else if (char = ':' && c.endsWord 1) || (flow && isFlowIndicator char) then some (done, c)
      else plainWord flow fuel (char :: done) (c.skip 1)

/-- Reads a plain scalar whose later lines stand at the column `indent` or right of it. The flag
tells whether it ends behind a line end. -/
def plainText (flow : Bool) (indent : Nat) :
    Nat → List Char → Gap → Cursor → Option (List Char × Bool × Cursor)
  | 0, done, gap, c => some (done.reverse, gap.folded, c)
  | fuel + 1, done, gap, c =>
    if c.isDocumentMarker || c.holds '#' 0 then some (done.reverse, gap.folded, c)
    else do
      let (word, c) ← plainWord flow (c.rest.length + 1) [] c
      let (done, gap) :=
        if word.isEmpty then (done, gap) else (word ++ gap.text.reverse ++ done, {})
      if c.satisfies (fun char => isWhite char || isBreak char) 0 then
        let (gap, c) ← readGap indent (c.rest.length + 1) {} c
        if !flow && c.column < indent then return (done.reverse, gap.folded, c)
        plainText flow indent fuel done gap c
      else return (done.reverse, gap.folded, c)

/-! ### Literal and folded scalars -/

/-- What becomes of the line ends at the end of a block scalar. -/
inductive Chomping where
  | strip
  | clip
  | keep
  deriving DecidableEq, Repr

/-- The sign for the line ends at the end. -/
def chomping? : Char → Option Chomping
  | '+' => some .keep
  | '-' => some .strip
  | _ => none

/-- Reads the signs behind a block scalar's indicator, in either order: what becomes of the line
ends, and the indentation, 0 for one that is to be found. -/
def blockHeader (c : Cursor) : Option (Chomping × Nat × Cursor) :=
  let digit? (c : Cursor) : Option Nat :=
    c.head?.bind fun char => if char.isDigit then some (char.toNat - 48) else none
  match c.head?.bind chomping? with
  | some chomping =>
    match digit? (c.skip 1) with
    | some 0 => none
    | some n => some (chomping, n, c.skip 2)
    | none => some (chomping, 0, c.skip 1)
  | none =>
    match digit? c with
    | some 0 => none
    | some n =>
      match (c.at? 1).bind chomping? with
      | some chomping => some (chomping, n, c.skip 2)
      | none => some (.clip, n, c.skip 1)
    | none => some (.clip, 0, c)

/-- Reads the indentation and the empty lines before a line of a block scalar. `indent` is 0 while
it is to be found. Gives the greatest column reached and what the line ends stand for. -/
def blockBreaks (indent : Nat) :
    Nat → Nat → List Char → Cursor → Option (Nat × List Char × Cursor)
  | 0, most, breaks, c => some (most, breaks, c)
  | fuel + 1, most, breaks, c =>
    let room := if indent = 0 then c.rest.length else indent - c.column
    let c := c.skip ((c.rest.take room).takeWhile (· = ' ')).length
    let most := max most c.column
    if (indent = 0 || c.column < indent) && c.holds '\t' 0 then none
    else if c.satisfies isBreak 0 then
      blockBreaks indent fuel most (breaks ++ c.breakText) c.skipBreak
    else some (most, breaks, c)

/-- The state of reading a block scalar's lines. -/
structure BlockLines where
  text : List Char := []
  /-- What the end of the last line stands for. -/
  lineEnd : List Char := []
  /-- What the ends of the empty lines after it stand for. -/
  empties : List Char := []
  /-- Whether the last line starts with a blank. -/
  blankStart : Bool := false

/-- Reads the lines of a block scalar that stand at the column `indent`. -/
def blockLines (literal : Bool) (indent : Nat) :
    Nat → BlockLines → Cursor → Option (BlockLines × Cursor)
  | 0, lines, c => some (lines, c)
  | fuel + 1, lines, c =>
    if c.column ≠ indent || c.rest.isEmpty then some (lines, c)
    else do
      let blankStart := c.satisfies isWhite 0
      let joined := !literal && lines.lineEnd = ['\n'] && !lines.blankStart && !blankStart
      let before :=
        if joined then if lines.empties.isEmpty then [' '] else lines.empties
        else lines.lineEnd ++ lines.empties
      let inLine (char : Char) : Bool := !isBreak char
      let text := lines.text ++ before ++ c.takeWhile inLine
      let c := c.skipWhile inLine
      let lineEnd := c.breakText
      let (_, empties, c) ← blockBreaks indent (c.rest.length + 1) 0 [] c.skipBreak
      blockLines literal indent fuel ⟨text, lineEnd, empties, blankStart⟩ c

/-- Reads a block scalar behind its indicator, in a block at the column `outer`, which is -1
outside of all blocks. -/
def blockText (literal : Bool) (outer : Int) (c : Cursor) : Option (List Char × Cursor) := do
  let (chomping, increment, c) ← blockHeader c
  let c := (c.skipWhile isWhite).skipComment
  if !c.endsLine 0 then none
  let c := c.skipBreak
  let given := if increment = 0 then 0 else outer.toNat + increment
  let (most, empties, c) ← blockBreaks given (c.rest.length + 1) 0 [] c
  let indent := if given = 0 then max most (max (outer + 1).toNat 1) else given
  let (lines, c) ← blockLines literal indent (c.rest.length + 1) { empties } c
  let lineEnd := if chomping = .strip then [] else lines.lineEnd
  let empties := if chomping = .keep then lines.empties else []
  return (lines.text ++ lineEnd ++ empties, c)

end Upkeep.Yaml
