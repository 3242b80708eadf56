import Upkeep.Data.Binary64

/-!
# Data — the values plugins are given and pass on

A value is null, a truth value, a number, a text, a list or a record. The fields of a record are
in the order of their names and have one value each: `Fields.insert` keeps both.
-/

namespace Upkeep

/-- A value. Whole numbers run from -2^63 to below 2^64. -/
inductive Data where
  | null
  | bool (b : Bool)
  | int (n : Int)
  | float (x : Binary64)
  | text (s : String)
  | list (items : List Data)
  | record (fields : List (String × Data))
  deriving Inhabited, Repr

/-- The fields with one of them set. -/
def Fields.insert (name : String) (value : α) : List (String × α) → List (String × α)
  | [] => [(name, value)]
  | (other, old) :: rest =>
    if name = other then (name, value) :: rest
    else if name < other then (name, value) :: (other, old) :: rest
    else (other, old) :: insert name value rest

/-- The value of a field. -/
def Fields.get? (name : String) : List (String × α) → Option α
  | [] => none
  | (other, value) :: rest => if name = other then some value else get? name rest

/-- Fields in order, from a list in which a later value replaces an earlier one. -/
def Fields.ofList (fields : List (String × α)) : List (String × α) :=
  fields.foldl (fun fields (name, value) => insert name value fields) []

namespace Data

/-- The record with the given fields. -/
def ofFields (fields : List (String × Data)) : Data := .record (Fields.ofList fields)

/-- The list of texts. -/
def texts (items : List String) : Data := .list (items.map .text)

/-- The text, or null. -/
def textOrNull : Option String → Data
  | some s => .text s
  | none => .null

/-- A natural number. -/
def nat (n : Nat) : Data := .int n

/-- The value, or null. -/
def orNull : Option Data → Data
  | some value => value
  | none => .null

/-- A field of a record; none if the value is no record. -/
def field? (name : String) : Data → Option Data
  | .record fields => Fields.get? name fields
  | _ => none

/-- The text of a text value. -/
def asText? : Data → Option String
  | .text s => some s
  | _ => none

end Data

end Upkeep
