import Upkeep.Data.Basic
import Upkeep.Text.Quoted
import Upkeep.Text.Names

/-!
# Reading typed values — one reader for every kind of document

`Source` says what a kind of document offers to a reader: texts, numbers, options, lists, records
and values as they are. A type's reader is written once against it and serves every kind. For
data itself the errors tell what was found and what was expected; a record may be given as a list
of its fields in their declared order.
-/

namespace Upkeep

/-- The fields of a record type in their declared order; a list that stands for the record has to
reach the fields marked `true`. -/
structure RecordShape where
  label : String
  fields : List (String × Bool)

/-- What a reader can ask of a document of type `ν`; `m` carries its errors. -/
class Source (ν : Type) (m : outParam (Type → Type)) where
  /-- A text; the label says what for. -/
  text (label : String) : ν → m String
  /-- A natural number of at most so many bits. -/
  natural (bits : Nat) : ν → m Nat
  /-- Nothing, or what the reader makes of it. -/
  optional {α : Type} (read : ν → m α) : ν → m (Option α)
  /-- A list, each item read in turn. -/
  items {α : Type} (read : ν → m α) : ν → m (List α)
  /-- The value as it is. -/
  data : ν → m Data
  /-- A record: each of its fields that the shape names is put into `start`. -/
  record {α : Type} (shape : RecordShape) (put : α → String → ν → m α) (start : α) : ν → m α
  /-- The failure over a field that must be given. -/
  missing {α : Type} (field : String) : m α

/-- A set of names. -/
def Source.names [Monad m] [Source ν m] (node : ν) : m Names := do
  return Names.ofList (← Source.items (Source.text "a string") node)

/-- An optional text. -/
def Source.textOption [Source ν m] : ν → m (Option String) :=
  Source.optional (Source.text "a string")

/-- A list of texts. -/
def Source.texts [Source ν m] : ν → m (List String) := Source.items (Source.text "a string")

/-- Why data does not fit a type. -/
inductive DecodeError where
  | wrongType (found : Data) (expected : String)
  | wrongValue (found : Data) (expected : String)
  | wrongLength (length : Nat) (expected : String)
  | missingField (name : String)
  | unknownVariant (name : String) (known : List String)
  | severalKeys
  deriving Repr

/-- A value as errors name it. -/
def Data.named : Data → String
  | .null => "null"
  | .bool b => "boolean `" ++ (if b then "true" else "false") ++ "`"
  | .int n => "integer `" ++ toString n ++ "`"
  | .float x => "floating point `" ++ x.render ++ "`"
  | .text s => "string " ++ quoted s
  | .list _ => "sequence"
  | .record _ => "map"

/-- Choices as errors list them. -/
def choices : List String → String
  | [] => ""
  | [a] => "`" ++ a ++ "`"
  | [a, b] => "`" ++ a ++ "` or `" ++ b ++ "`"
  | several => "one of " ++ ", ".intercalate (several.map fun a => "`" ++ a ++ "`")

/-- The error in words. -/
def DecodeError.message : DecodeError → String
  | .wrongType found expected => "invalid type: " ++ found.named ++ ", expected " ++ expected
  | .wrongValue found expected => "invalid value: " ++ found.named ++ ", expected " ++ expected
  | .wrongLength length expected =>
    "invalid length " ++ toString length ++ ", expected " ++ expected
  | .missingField name => "missing field `" ++ name ++ "`"
  | .unknownVariant name known =>
    "unknown variant `" ++ name ++ "`, expected " ++ choices known
  | .severalKeys => "invalid value: map, expected map with a single key"

namespace Data

/-- What a reader makes of data, or why it cannot. -/
abbrev Decoded (α : Type) := Except DecodeError α

/-- A text. -/
def toText (label : String) : Data → Decoded String
  | .text s => .ok s
  | found => .error (.wrongType found label)

/-- A truth value. -/
def toBool : Data → Decoded Bool
  | .bool b => .ok b
  | found => .error (.wrongType found "a boolean")

/-- A whole number between two bounds. -/
def toWhole (label : String) (least most : Int) : Data → Decoded Int
  | .int n => if least ≤ n ∧ n ≤ most then .ok n else .error (.wrongValue (.int n) label)
  | found => .error (.wrongType found label)

/-- A natural number of at most so many bits. -/
def toNatural (bits : Nat) (value : Data) : Decoded Nat :=
  (value.toWhole ("u" ++ toString bits) 0 (Int.pow 2 bits - 1)).map Int.toNat

/-- Nothing for null, else what the reader makes of the value. -/
def toOption (read : Data → Decoded α) : Data → Decoded (Option α)
  | .null => .ok none
  | value => (read value).map some

/-- The items of a list, each read in turn. -/
def toItems (read : Data → Decoded α) : Data → Decoded (List α)
  | .list items => items.mapM read
  | found => .error (.wrongType found "a sequence")

/-- The fields of a record, each value read in turn. -/
def toFields (read : Data → Decoded α) : Data → Decoded (List (String × α))
  | .record fields => fields.mapM fun (name, value) => (read value).map (name, ·)
  | found => .error (.wrongType found "a map")

/-- How a record with the shape's number of fields is named. -/
def RecordShape.withCount (shape : RecordShape) : String :=
  shape.label ++ " with " ++ toString shape.fields.length ++ " elements"

/-- Puts the items of a list into a record, one field after the other. `position` counts the items
taken; items beyond the last field are an error. -/
def putItems (shape : RecordShape) (put : α → String → Data → Decoded α) (length : Nat) :
    Nat → α → List (String × Bool) → List Data → Decoded α
  | _, built, [], [] => .ok built
  | _, _, [], _ :: _ => .error (.wrongLength length "fewer elements in array")
  | position, built, (_, required) :: fields, [] =>
    if required then .error (.wrongLength position (RecordShape.withCount shape))
    else putItems shape put length (position + 1) built fields []
  | position, built, (name, _) :: fields, item :: items => do
    putItems shape put length (position + 1) (← put built name item) fields items

/-- A record, from its fields by name or from a list of them. -/
def toRecord (shape : RecordShape) (put : α → String → Data → Decoded α) (start : α) :
    Data → Decoded α
  | .record fields =>
    let step (built : α) (field : String × Data) : Decoded α :=
      if shape.fields.any (·.1 = field.1) then put built field.1 field.2 else .ok built
    fields.foldlM step start
  | .list items => putItems shape put items.length 0 start shape.fields items
  | found => .error (.wrongType found shape.label)

/-- One of several words, given alone or as the only key of a record whose value is null. -/
def toVariant (known : List String) (value : Data) : Decoded String :=
  let check (name : String) : Decoded String :=
    if known.contains name then .ok name else .error (.unknownVariant name known)
  match value with
  | .text name => check name
  | .record [(name, inner)] => do
    let name ← check name
    match inner with
    | .null => .ok name
    | found => .error (.wrongType found "unit")
  | .record _ => .error .severalKeys
  | found => .error (.wrongType found "string or map")

instance : Source Data Decoded where
  text := toText
  natural := toNatural
  optional := toOption
  items := toItems
  data := .ok
  record := toRecord
  missing field := .error (.missingField field)

end Data

end Upkeep
