import Upkeep.Yaml.Scalar

/-!
# From text to tokens

Most tokens are told by their first characters. Two things need memory. In block style the
indentation starts and ends collections: `Scanner.indents` holds the columns of the open ones. And
a scalar may turn out to be a key only when a colon follows on the same line, at most 1024
characters on: `Scanner.keys` holds, for each open flow collection and for the block around them,
where such a key might have started, so that a `key` token can be put in front of it.
-/

namespace Upkeep.Yaml

/-- The start of what may be a key. -/
structure KeyStart where
  index : Nat
  line : Nat
  column : Nat
  /-- How many tokens come before it. -/
  token : Nat
  /-- Whether only a key can stand there. -/
  required : Bool

/-- The state of reading tokens. -/
structure Scanner where
  cursor : Cursor
  tokens : Array Token := #[]
  /-- The columns of the open block collections, innermost first, over -1. -/
  indents : List Int := [-1]
  /-- The possible keys, innermost flow collection first, the block last. -/
  keys : List (Option KeyStart) := [none]
  /-- Whether a key may start here. -/
  keyAllowed : Bool := true

namespace Scanner

/-- Whether the scanner is inside a flow collection. -/
def inFlow (s : Scanner) : Bool := 1 < s.keys.length

/-- The column of the innermost block collection. -/
def indent (s : Scanner) : Int := s.indents.headD (-1)

/-- Adds a token. -/
def push (s : Scanner) (token : Token) : Scanner := { s with tokens := s.tokens.push token }

/-- Adds a token and goes so many characters on. -/
def take (s : Scanner) (token : Token) (length : Nat) : Scanner :=
  { s.push token with cursor := s.cursor.skip length }

/-- Puts a token before others. -/
def insertAt (s : Scanner) (place : Nat) (token : Token) : Scanner :=
  { s with tokens := (s.tokens.take place).push token ++ s.tokens.drop place }

/-- Says whether keys may start from here on. -/
def allowKeys (s : Scanner) (allowed : Bool) : Scanner := { s with keyAllowed := allowed }

/-- Opens a block collection at a column right of the innermost one, with its token put at a place
among the tokens. -/
def openBlock (s : Scanner) (column : Nat) (place : Nat) (token : Token) : Scanner :=
  if s.inFlow || (column : Int) ≤ s.indent then s
  else { s.insertAt place token with indents := (column : Int) :: s.indents }

/-- Closes the block collections that stand right of a column. -/
def closeBlocks (s : Scanner) (column : Int) : Scanner :=
  if s.inFlow then s
  else
    let closed := s.indents.takeWhile fun open_ => column < open_
    { s with
      indents := s.indents.drop closed.length
      tokens := s.tokens ++ Array.replicate closed.length .blockEnd }

/-- Gives up the possible key of the innermost collection, which must not be required. -/
def dropKey (s : Scanner) : Option Scanner :=
  match s.keys with
  | some start :: rest => if start.required then none else some { s with keys := none :: rest }
  | _ => some s

/-- Remembers that a key may start here, if one may. -/
def saveKey (s : Scanner) : Option Scanner :=
  if s.keyAllowed then do
    let s ← s.dropKey
    let c := s.cursor
    let start : KeyStart :=
      ⟨c.index, c.line, c.column, s.tokens.size, !s.inFlow && s.indent = (c.column : Int)⟩
    return { s with keys := some start :: s.keys.drop 1 }
  else some s

/-- Gives up the possible keys that are on an earlier line or too far back. -/
def dropStaleKeys (s : Scanner) : Option Scanner := do
  let keys ← s.keys.mapM fun
    | none => some none
    | some start =>
      if start.line < s.cursor.line || start.index + 1024 < s.cursor.index then
        if start.required then none else some none
      else some (some start)
  return { s with keys }

/-- Goes on to where the next token starts: over blanks, comments and line ends. Tabs are blanks
where no key of a block can start. -/
def toNextToken : Nat → Scanner → Scanner
  | 0, s => s
  | fuel + 1, s =>
    let tabs := s.inFlow || !s.keyAllowed
    let c := if s.cursor.index = 0 && s.cursor.holds '\uFEFF' 0 then s.cursor.skip 1 else s.cursor
    let c := (c.skipWhile fun char => char = ' ' || (tabs && char = '\t')).skipComment
    if c.satisfies isBreak 0 then
      toNextToken fuel
        { s with cursor := c.skipBreak, keyAllowed := s.keyAllowed || !s.inFlow }
    else { s with cursor := c }

/-! ### Directives, anchors and tags -/

/-- A number of a version: one to nine digits. -/
def versionNumber (c : Cursor) : Option (Nat × Cursor) :=
  let digits := c.takeWhile Char.isDigit
  if digits.isEmpty || 9 < digits.length then none
  else some (digits.foldl (fun n d => n * 10 + (d.toNat - 48)) 0, c.skip digits.length)

/-- A version. -/
def version (c : Cursor) : Option (Token × Cursor) := do
  let (major, c) ← versionNumber (c.skipWhile isWhite)
  if !c.holds '.' 0 then none
  let (minor, c) ← versionNumber (c.skip 1)
  return (.version major minor, c)

/-- A character of a tag's suffix. In a verbatim tag and in a directive it may be a comma or a
bracket. -/
def isTagChar (verbatim : Bool) (c : Char) : Bool :=
  isNameChar c || ";/?:@&=+$.%!~*'()".toList.contains c || (verbatim && ",[]".toList.contains c)

/-- How many octets an escaped character has, by its first one. -/
def octetCount? (octet : Nat) : Option Nat :=
  if octet < 0x80 then some 1
  else if octet < 0xC0 then none
  else if octet < 0xE0 then some 2
  else if octet < 0xF0 then some 3
  else if octet < 0xF8 then some 4
  else none

/-- An escaped octet: a percent sign and two digits. -/
def escapedOctet? : List Char → Option Nat
  | '%' :: high :: low :: _ => do return (← hexDigit? high) * 16 + (← hexDigit? low)
  | _ => none

/-- The octets after the first one of an escaped character. -/
def laterOctets : Nat → Cursor → Option (Bytes × Cursor)
  | 0, c => some ([], c)
  | count + 1, c => do
    let octet ← escapedOctet? c.rest
    if octet < 0x80 || 0xC0 ≤ octet then none
    let (octets, c) ← laterOctets count (c.skip 3)
    return (octet.toUInt8 :: octets, c)

/-- The suffix of a tag, its escapes replaced. -/
def tagSuffix (verbatim : Bool) : Nat → Bytes → Cursor → Option (Bytes × Cursor)
  | 0, done, c => some (done, c)
  | fuel + 1, done, c =>
    match c.head? with
    | none => some (done, c)
    | some '%' => do
      let octet ← escapedOctet? c.rest
      let count ← octetCount? octet
      let (octets, c) ← laterOctets (count - 1) (c.skip 3)
      tagSuffix verbatim fuel (done ++ octet.toUInt8 :: octets) c
    | some char =>
      if isTagChar verbatim char then
        tagSuffix verbatim fuel (done ++ encodeChar char) (c.skip 1)
      else some (done, c)

/-- A tag's handle: an exclamation mark, a name and, if there is one, another mark. -/
def tagHandle (c : Cursor) : Option (String × Cursor) :=
  if c.holds '!' 0 then
    let name := (c.skip 1).takeWhile isNameChar
    let after := c.skip (1 + name.length)
    if after.holds '!' 0 then some (String.ofList ('!' :: name ++ ['!']), after.skip 1)
    else some (String.ofList ('!' :: name), after)
  else none

/-- The shorthand that a directive introduces. -/
def tagShorthand (c : Cursor) : Option (Token × Cursor) := do
  let (handle, c) ← tagHandle (c.skipWhile isWhite)
  if handle ≠ "!" && !(handle.endsWith "!") then none
  if !c.satisfies isWhite 0 then none
  let start := c.skipWhile isWhite
  let (expansion, c) ← tagSuffix true (start.rest.length + 1) [] start
  if c.index = start.index || !c.endsWord 0 then none
  return (.tagShorthand handle expansion, c)

/-- A directive, behind its percent sign. -/
def directive (s : Scanner) : Option Scanner := do
  let c := s.cursor.skip 1
  let name := String.ofList (c.takeWhile isNameChar)
  let c := c.skip name.length
  if name.isEmpty || !c.endsWord 0 then none
  let (token, c) ←
    match name with
    | "YAML" => version c
    | "TAG" => tagShorthand c
    | _ => none
  let c := (c.skipWhile isWhite).skipComment
  if !c.endsLine 0 then none
  return { s.push token with cursor := c.skipBreak }

/-- An alias or an anchor: a sign and a name. -/
def named (s : Scanner) (token : String → Token) : Option Scanner :=
  let name := (s.cursor.skip 1).takeWhile isNameChar
  let c := s.cursor.skip (1 + name.length)
  if !name.isEmpty && (c.endsWord 0 || c.satisfies "?:,]\x7d%@\x60".toList.contains 0) then
    some { s.push (token (String.ofList name)) with cursor := c }
  else none

/-- A tag: verbatim, of a handle and a suffix, or of a suffix alone. -/
def tag (s : Scanner) : Option Scanner := do
  let start := s.cursor
  let fuel := start.rest.length + 1
  let (token, c) ←
    if start.holds '<' 1 then do
      let inner := start.skip 2
      let (suffix, c) ← tagSuffix true fuel [] inner
      if c.index = inner.index || !c.holds '>' 0 then none
      pure (Token.tag "" suffix, c.skip 1)
    else do
      let (handle, c) ← tagHandle start
      if 1 < handle.length && handle.endsWith "!" then do
        let (suffix, after) ← tagSuffix false fuel [] c
        if after.index = c.index then none
        pure (.tag handle suffix, after)
      else do
        let (suffix, c) ← tagSuffix false fuel (encodeUtf8 (handle.toList.drop 1)) c
        if suffix.isEmpty then pure (.tag "" (encodeUtf8 ['!']), c)
        else pure (.tag "!" suffix, c)
  if c.endsWord 0 || (s.inFlow && c.holds ',' 0) then
    return { s.push token with cursor := c }
  else none

/-! ### Tokens -/

/-- Opens a flow collection. -/
def openFlow (s : Scanner) (token : Token) : Option Scanner := do
  let s ← s.saveKey
  return { (s.take token 1).allowKeys true with keys := none :: s.keys }

/-- Closes a flow collection. -/
def closeFlow (s : Scanner) (token : Token) : Option Scanner := do
  let s ← s.dropKey
  let keys := if s.inFlow then s.keys.drop 1 else s.keys
  return { (s.take token 1).allowKeys false with keys }

/-- The dash before an item of a block sequence. -/
def blockEntry (s : Scanner) : Option Scanner := do
  if !s.inFlow && !s.keyAllowed then none
  let s := s.openBlock s.cursor.column s.tokens.size .blockSequenceStart
  let s ← s.dropKey
  return (s.take .blockEntry 1).allowKeys true

/-- The question mark before a key. -/
def explicitKey (s : Scanner) : Option Scanner := do
  if !s.inFlow && !s.keyAllowed then none
  let s := s.openBlock s.cursor.column s.tokens.size .blockMappingStart
  let s ← s.dropKey
  return (s.take .key 1).allowKeys (!s.inFlow)

/-- The colon before a value. What may be a key before it is one. -/
def value (s : Scanner) : Option Scanner :=
  match s.keys with
  | some start :: rest =>
    let s := (s.insertAt start.token .key).openBlock start.column start.token .blockMappingStart
    some (({ s with keys := none :: rest }.take .value 1).allowKeys false)
  | _ =>
    if !s.inFlow && !s.keyAllowed then none
    else
      let s := s.openBlock s.cursor.column s.tokens.size .blockMappingStart
      some ((s.take .value 1).allowKeys (!s.inFlow))

/-- A literal or folded scalar. -/
def blockScalar (s : Scanner) (literal : Bool) : Option Scanner := do
  let s ← s.dropKey
  let (text, cursor) ← blockText literal s.indent (s.cursor.skip 1)
  let style := if literal then Style.literal else .folded
  return { (s.push (.scalar style (String.ofList text))).allowKeys true with cursor }

/-- A quoted scalar. -/
def quotedScalar (s : Scanner) (single : Bool) : Option Scanner := do
  let s ← s.saveKey
  let (text, cursor) ← quotedText single (s.cursor.rest.length + 1) [] (s.cursor.skip 1)
  let style := if single then Style.singleQuoted else .doubleQuoted
  return { (s.push (.scalar style (String.ofList text))).allowKeys false with cursor }

/-- A plain scalar. A key may start behind it if it ends behind a line end. -/
def plainScalar (s : Scanner) : Option Scanner := do
  let s ← s.saveKey
  let (text, ended, cursor) ←
    plainText s.inFlow (s.indent + 1).toNat (s.cursor.rest.length + 1) [] {} s.cursor
  return { (s.push (.scalar .plain (String.ofList text))).allowKeys ended with cursor }

/-- Whether a plain scalar can start with a character. -/
def startsPlain (s : Scanner) (char : Char) : Bool :=
  let c := s.cursor
  !(c.endsWord 0 || "-?:,[]\x7b\x7d#&*!|>'\"%@\x60".toList.contains char) ||
    (char = '-' && !c.satisfies isWhite 1) ||
    (!s.inFlow && (char = '?' || char = ':') && !c.endsWord 1)

/-- A directive or a marker of a document's start or end: it closes all blocks. -/
def outermost (s : Scanner) : Option Scanner := do
  let s ← (s.closeBlocks (-1)).dropKey
  return s.allowKeys false

/-- Reads the token that starts here. -/
def token (s : Scanner) (char : Char) : Option Scanner := do
  let c := s.cursor
  if c.column = 0 && char = '%' then (← s.outermost).directive
  else if c.isMarker '-' then return (← s.outermost).take .documentStart 3
  else if c.isMarker '.' then return (← s.outermost).take .documentEnd 3
  else if char = '[' then s.openFlow .flowSequenceStart
  else if char = '\x7b' then s.openFlow .flowMappingStart
  else if char = ']' then s.closeFlow .flowSequenceEnd
  else if char = '\x7d' then s.closeFlow .flowMappingEnd
  else if char = ',' then return ((← s.dropKey).take .flowEntry 1).allowKeys true
  else if char = '-' && c.endsWord 1 then s.blockEntry
  else if char = '?' && (s.inFlow || c.endsWord 1) then s.explicitKey
  else if char = ':' && (s.inFlow || c.endsWord 1) then s.value
  else if char = '*' then ((← s.saveKey).allowKeys false).named .alias
  else if char = '&' then ((← s.saveKey).allowKeys false).named .anchor
  else if char = '!' then ((← s.saveKey).allowKeys false).tag
  else if char = '|' && !s.inFlow then s.blockScalar true
  else if char = '>' && !s.inFlow then s.blockScalar false
  else if char = '\'' then s.quotedScalar true
  else if char = '"' then s.quotedScalar false
  else if s.startsPlain char then s.plainScalar
  else none

/-- Reads the tokens up to the end of the text. -/
def run : Nat → Scanner → Option (Array Token)
  | 0, _ => none
  | fuel + 1, s => do
    let s ← (toNextToken (s.cursor.rest.length + 1) s).dropStaleKeys
    let s := s.closeBlocks s.cursor.column
    match s.cursor.head? with
    | none =>
      let s ← (s.closeBlocks (-1)).dropKey
      return s.tokens
    | some char => run fuel (← s.token char)

end Scanner

/-- The tokens of a document, if its text has no character that may not stand in one and all of it
can be read. A byte order mark before it does not count. -/
def tokens? (text : List Char) : Option (List Token) :=
  let text := match text with
    | '\uFEFF' :: rest => rest
    | text => text
  if text.all isAllowed then
    (Scanner.run (text.length + 1) { cursor := { rest := text } }).map Array.toList
  else none

end Upkeep.Yaml
