import Upkeep.Data.Basic
import Upkeep.Text.Ranges

/-!
# Data as JSON text

`Json.render` writes a value on one line, without blanks. `Json.parse?` reads JSON text: whole
numbers stay whole as long as they fit, all others become doubles, and the last of several fields
with one name counts. Values are nested at most 127 deep.
-/

namespace Upkeep.Json

/-- A hexadecimal digit in lower case. -/
def hexDigit (n : Nat) : Char := (Nat.toDigits 16 (n % 16)).headD '0'

/-- One character inside a JSON string. -/
def escapeChar (c : Char) : List Char :=
  if c = '"' then ['\\', '"']
  else if c = '\\' then ['\\', '\\']
  else if c = '\n' then ['\\', 'n']
  else if c = '\r' then ['\\', 'r']
  else if c = '\t' then ['\\', 't']
  else if c = '\x08' then ['\\', 'b']
  else if c = '\x0c' then ['\\', 'f']
  else if c.toNat < 32 then ['\\', 'u', '0', '0', hexDigit (c.toNat / 16), hexDigit c.toNat]
  else [c]

/-- A JSON string. -/
def renderText (s : String) : String :=
  "\"" ++ String.ofList (s.toList.flatMap escapeChar) ++ "\""

mutual

/-- The value as JSON text. -/
def render : Data → String
  | .null => "null"
  | .bool true => "true"
  | .bool false => "false"
  | .int n => toString n
  | .float x => x.render
  | .text s => renderText s
  | .list items => "[" ++ ",".intercalate (renderItems items) ++ "]"
  | .record fields => "\x7b" ++ ",".intercalate (renderFields fields) ++ "\x7d"

/-- The items as JSON texts. -/
def renderItems : List Data → List String
  | [] => []
  | item :: rest => render item :: renderItems rest

/-- The fields as JSON texts. -/
def renderFields : List (String × Data) → List String
  | [] => []
  | (name, value) :: rest => (renderText name ++ ":" ++ render value) :: renderFields rest

end

/-- The text without JSON blanks before it. -/
def skipBlanks (text : List Char) : List Char :=
  text.dropWhile fun c => c = ' ' || c = '\n' || c = '\t' || c = '\r'

/-- What a hexadecimal digit is worth. -/
def hexValue? (c : Char) : Option Nat :=
  if asciiDigit c then some (c.toNat - 48)
  else if 'a' ≤ c && c ≤ 'f' then some (c.toNat - 87)
  else if 'A' ≤ c && c ≤ 'F' then some (c.toNat - 55)
  else none

/-- Four hexadecimal digits. -/
def hexFour? : List Char → Option (Nat × List Char)
  | a :: b :: c :: d :: rest =>
    match hexValue? a, hexValue? b, hexValue? c, hexValue? d with
    | some a, some b, some c, some d => some (((a * 16 + b) * 16 + c) * 16 + d, rest)
    | _, _, _, _ => none
  | _ => none

/-- The character behind `\u`: a code point, or a pair of surrogates. -/
def readUnit? (text : List Char) : Option (Char × List Char) :=
  match hexFour? text with
  | some (high, rest) =>
    if 0xD800 ≤ high && high ≤ 0xDBFF then
      match rest with
      | '\\' :: 'u' :: rest =>
        match hexFour? rest with
        | some (low, rest) =>
          if 0xDC00 ≤ low && low ≤ 0xDFFF then
            some (Char.ofNat (0x10000 + (high - 0xD800) * 1024 + (low - 0xDC00)), rest)
          else none
        | none => none
      | _ => none
    else if 0xDC00 ≤ high && high ≤ 0xDFFF then none
    else some (Char.ofNat high, rest)
  | none => none

/-- The rest of a string behind its opening quote, the characters read so far last one first. -/
def readString? : Nat → List Char → List Char → Option (String × List Char)
  | 0, _, _ => none
  | fuel + 1, read, text =>
    match text with
    | '"' :: rest => some (String.ofList read.reverse, rest)
    | '\\' :: 'u' :: rest =>
      match readUnit? rest with
      | some (c, rest) => readString? fuel (c :: read) rest
      | none => none
    | '\\' :: c :: rest =>
      let meant? : Option Char := match c with
        | '"' => some '"'
        | '\\' => some '\\'
        | '/' => some '/'
        | 'b' => some '\x08'
        | 'f' => some '\x0c'
        | 'n' => some '\n'
        | 'r' => some '\r'
        | 't' => some '\t'
        | _ => none
      match meant? with
      | some c => readString? fuel (c :: read) rest
      | none => none
    | c :: rest => if c.toNat < 32 then none else readString? fuel (c :: read) rest
    | [] => none

/-- The number that decimal digits write. -/
def digitsValue (digits : List Char) : Nat :=
  digits.foldl (fun n c => n * 10 + (c.toNat - 48)) 0

/-- The exponent behind `e`, if there is one: its digits with a sign. -/
def readExponent? (text : List Char) : Option (Int × List Char) :=
  match text with
  | c :: rest =>
    if c = 'e' || c = 'E' then
      let (negative, rest) := match rest with
        | '-' :: rest => (true, rest)
        | '+' :: rest => (false, rest)
        | _ => (false, rest)
      let digits := rest.takeWhile asciiDigit
      if digits.isEmpty then none
      else
        let power : Int := digitsValue digits
        some (if negative then -power else power, rest.dropWhile asciiDigit)
    else some (0, text)
  | [] => some (0, [])

/-- A whole number as a value: a double where it does not fit, and for minus zero. -/
def ofWhole? (negative : Bool) (n : Nat) : Option Data :=
  if negative then
    if n = 0 || Nat.pow 2 63 < n then (Binary64.ofDecimal? true n 0).map .float
    else some (.int (-n))
  else if n < Nat.pow 2 64 then some (.int n)
  else (Binary64.ofDecimal? false n 0).map .float

/-- The digits behind a point, whether there is a point, and what stands behind. -/
def readFraction : List Char → List Char × Bool × List Char
  | '.' :: rest => (rest.takeWhile asciiDigit, true, rest.dropWhile asciiDigit)
  | text => ([], false, text)

/-- A number behind its sign. -/
def readMagnitude? (negative : Bool) (text : List Char) : Option (Data × List Char) :=
  let whole := text.takeWhile asciiDigit
  let rest := text.dropWhile asciiDigit
  if whole.isEmpty || (whole.head? = some '0' && 1 < whole.length) then none
  else
    let (fraction, marked, rest) := readFraction rest
    if marked && fraction.isEmpty then none
    else match readExponent? rest with
      | none => none
      | some (power, after) =>
        let value? :=
          if !marked && after.length = rest.length then ofWhole? negative (digitsValue whole)
          else (Binary64.ofDecimal? negative (digitsValue (whole ++ fraction))
            (power - fraction.length)).map .float
        value?.map (·, after)

/-- A number. -/
def readNumber? (text : List Char) : Option (Data × List Char) :=
  match text with
  | '-' :: rest => readMagnitude? true rest
  | _ => readMagnitude? false text

mutual

/-- A value behind blanks. -/
def readValue? : Nat → Nat → List Char → Option (Data × List Char)
  | 0, _, _ => none
  | fuel + 1, depth, text =>
    match skipBlanks text with
    | 'n' :: 'u' :: 'l' :: 'l' :: rest => some (.null, rest)
    | 't' :: 'r' :: 'u' :: 'e' :: rest => some (.bool true, rest)
    | 'f' :: 'a' :: 'l' :: 's' :: 'e' :: rest => some (.bool false, rest)
    | '"' :: rest => (readString? (rest.length + 1) [] rest).map fun (s, rest) => (.text s, rest)
    | '[' :: rest =>
      if depth ≤ 1 then none
      else match skipBlanks rest with
        | ']' :: rest => some (.list [], rest)
        | rest => readItems? fuel (depth - 1) [] rest
    | '\x7b' :: rest =>
      if depth ≤ 1 then none
      else match skipBlanks rest with
        | '\x7d' :: rest => some (.record [], rest)
        | rest => readFields? fuel (depth - 1) [] rest
    | text => readNumber? text

/-- Items up to the closing bracket, the ones read so far last one first. -/
def readItems? : Nat → Nat → List Data → List Char → Option (Data × List Char)
  | 0, _, _, _ => none
  | fuel + 1, depth, read, text =>
    match readValue? fuel depth text with
    | some (item, rest) =>
      match skipBlanks rest with
      | ',' :: rest => readItems? fuel depth (item :: read) rest
      | ']' :: rest => some (.list (item :: read).reverse, rest)
      | _ => none
    | none => none

/-- Fields up to the closing brace, the ones read so far last one first. -/
def readFields? : Nat → Nat → List (String × Data) → List Char → Option (Data × List Char)
  | 0, _, _, _ => none
  | fuel + 1, depth, read, text =>
    match skipBlanks text with
    | '"' :: rest =>
      match readString? (rest.length + 1) [] rest with
      | some (name, rest) =>
        match skipBlanks rest with
        | ':' :: rest =>
          match readValue? fuel depth rest with
          | some (value, rest) =>
            match skipBlanks rest with
            | ',' :: rest => readFields? fuel depth ((name, value) :: read) rest
            | '\x7d' :: rest => some (.ofFields ((name, value) :: read).reverse, rest)
            | _ => none
          | none => none
        | _ => none
      | none => none
    | _ => none

end

/-- The value that a JSON text writes. -/
def parse? (s : String) : Option Data :=
  let text := s.toList
  match readValue? (2 * text.length + 2) 128 text with
  | some (value, rest) => if (skipBlanks rest).isEmpty then some value else none
  | none => none

end Upkeep.Json
