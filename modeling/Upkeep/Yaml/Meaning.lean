import Upkeep.Data.Json
import Upkeep.Yaml.Scalar

/-!
# What plain scalars mean

A plain scalar may be null, a truth value or a number. Whole numbers are written in decimal digits
or, behind `0x`, `0o` and `0b`, in others; a decimal with a leading zero is none. Whole numbers
that do not fit are told apart from those that are read as doubles.
-/

namespace Upkeep.Yaml

/-- What a scalar means. -/
inductive Meaning where
  | null
  | bool (b : Bool)
  | whole (n : Int)
  /-- A whole number that has no place: beyond 64 bits, but not beyond 128. -/
  | tooLarge
  /-- A double; none if it is infinite or not a number. -/
  | float (x : Option Binary64)
  /-- The scalar's own text. -/
  | itself
  deriving Repr

namespace Meaning

/-- The ways to write null. -/
def nulls : List String := ["null", "Null", "NULL", "~"]

/-- The truth value that a text writes. -/
def bool? (s : String) : Option Bool :=
  if ["true", "True", "TRUE"].contains s then some true
  else if ["false", "False", "FALSE"].contains s then some false
  else none

/-- The text without a sign before it. -/
def withoutSign : List Char → List Char
  | '+' :: rest => rest
  | '-' :: rest => rest
  | text => text

/-- The text without a plus sign before it. -/
def withoutPlus : List Char → List Char
  | '+' :: rest => rest
  | text => text

/-- Whether there is a sign before the text. -/
def isSigned (text : List Char) : Bool := text.head? = some '+' || text.head? = some '-'

/-- Whether a text is of digits with a zero before them, and so writes no number. -/
def isZeroLed (text : List Char) : Bool :=
  match withoutSign text with
  | '0' :: rest => !rest.isEmpty && rest.all Char.isDigit
  | _ => false

/-- The value of digits in a base, if there are any and all of them are such. -/
def digits? (base : Nat) (text : List Char) : Option Nat :=
  if text.isEmpty then none
  else text.foldlM (fun n c => do
    let d ← hexDigit? c
    if d < base then some (n * base + d) else none) 0

/-- The base that the start of a text announces, and the text behind it. -/
def based? : List Char → Option (Nat × List Char)
  | '0' :: 'x' :: rest => some (16, rest)
  | '0' :: 'o' :: rest => some (8, rest)
  | '0' :: 'b' :: rest => some (2, rest)
  | _ => none

/-- The natural number that a text writes, if it is at most `most`. -/
def natural? (most : Nat) (text : List Char) : Option Nat :=
  let bare := withoutPlus text
  let value? := match based? bare with
    | some (base, rest) => digits? base rest
    | none => if isZeroLed text then none else digits? 10 bare
  value?.filter (· ≤ most)

/-- The amount of the negative number that a text writes, if it is at most `most`. -/
def negative? (most : Nat) (text : List Char) : Option Nat :=
  match text with
  | '-' :: bare =>
    let value? := match based? bare with
      | some (base, rest) => digits? base rest
      | none => if isZeroLed text then none else digits? 10 bare
    value?.filter (· ≤ most)
  | _ => none

/-- The whole number that a text writes, or that it is too large for one. -/
def whole? (text : List Char) : Option Meaning :=
  match natural? (Nat.pow 2 64 - 1) text, negative? (Nat.pow 2 63) text with
  | some n, _ => some (.whole n)
  | none, some n => some (.whole (-n))
  | none, none =>
    if (natural? (Nat.pow 2 128 - 1) text).isSome ||
        (negative? (Nat.pow 2 127) text).isSome then
      some .tooLarge
    else none

/-- The double that digits with a point and an exponent write; none beyond the largest one. -/
def decimal? (text : List Char) : Option Binary64 :=
  let negative := text.head? = some '-'
  let text := withoutSign text
  let whole := text.takeWhile Char.isDigit
  let (fraction, rest) := match text.dropWhile Char.isDigit with
    | '.' :: rest => (rest.takeWhile Char.isDigit, rest.dropWhile Char.isDigit)
    | rest => ([], rest)
  if whole.isEmpty && fraction.isEmpty then none
  else match Json.readExponent? rest with
    | some (power, []) =>
      Binary64.ofDecimal? negative (Json.digitsValue (whole ++ fraction)) (power - fraction.length)
    | _ => none

/-- The double that a text writes; infinities and what is no number count. -/
def float? (text : List Char) : Option (Option Binary64) :=
  let bare := withoutPlus text
  if text.head? = some '+' && isSigned bare then none
  else if [".inf", ".Inf", ".INF"].contains (String.ofList bare) then some none
  else if ["-.inf", "-.Inf", "-.INF", ".nan", ".NaN", ".NAN"].contains (String.ofList text) then
    some none
  else (decimal? bare).map some

/-- What a plain scalar without a tag means. -/
def ofPlain (s : String) : Meaning :=
  let text := s.toList
  if s.isEmpty || nulls.contains s then .null
  else match bool? s with
    | some b => .bool b
    | none =>
      match whole? text with
      | some meaning => meaning
      | none =>
        if isZeroLed text then .itself
        else match float? text with
          | some x => .float x
          | none => .itself

/-- What a scalar means; none if it is not what its tag says, or has a tag that says nothing. -/
def ofScalar (tag : Option Bytes) (style : Style) (s : String) : Option Meaning :=
  let plain := if style = .plain then ofPlain s else .itself
  match tag with
  | none => some plain
  | some tag =>
    if tag.head? = some 33 then none
    else match String.ofList (decodeLossy tag) with
      | "tag:yaml.org,2002:bool" => (bool? s).map .bool
      | "tag:yaml.org,2002:int" => whole? s.toList
      | "tag:yaml.org,2002:float" => (float? s.toList).map .float
      | "tag:yaml.org,2002:null" => if nulls.contains s then some .null else none
      | _ => some .itself

end Meaning

end Upkeep.Yaml
