import Upkeep.Data.Source
import Upkeep.Yaml.Meaning
import Upkeep.Yaml.Node

/-!
# Reading typed values from a document

A text field takes any scalar as it is written. Data takes scalars by their meaning. An empty plain
scalar is nothing, an empty list or an empty record, as is wanted. Collections may be nested 128
deep, and aliases may be followed a hundred times for each part of the document.
-/

namespace Upkeep.Yaml

/-- A node and how many collections may still be nested in it. -/
structure Place where
  node : Node
  depth : Nat

/-- Reading from a document; the state counts the aliases that were followed. -/
abbrev Reading (α : Type) := ReaderT Document (StateT Nat Option) α

namespace Place

/-- The deepest nesting of collections. -/
def maxDepth : Nat := 128

/-- The node itself, or the one that it is an alias for. -/
def followed (place : Place) : Reading Node :=
  match place.node with
  | .alias n => do
    let document ← read
    let count := (← get) + 1
    if document.size * 100 < count then failure
    set count
    match document.target? n with
    | some node => return node
    | none => failure
  | node => return node

/-- Whether a node is an empty plain scalar. -/
def isNothing : Node → Bool
  | .scalar _ _ .plain "" => true
  | _ => false

/-- The places of the items of a collection. -/
def inside (depth : Nat) (nodes : List Node) : Reading (List Place) :=
  match depth with
  | 0 => failure
  | depth + 1 => return nodes.map (⟨·, depth⟩)

/-- The items of a sequence. -/
def items (place : Place) : Reading (List Place) := do
  match ← place.followed with
  | .sequence _ _ items => inside place.depth items
  | node => if isNothing node then return [] else failure

/-- The entries of a mapping: the place of each key and of each value. -/
def entries (place : Place) : Reading (List (Place × Place)) := do
  match ← place.followed with
  | .mapping _ _ entries =>
    match place.depth with
    | 0 => failure
    | depth + 1 => return entries.map fun (key, value) => (⟨key, depth⟩, ⟨value, depth⟩)
  | node => if isNothing node then return [] else failure

/-- The text of a scalar. -/
def text (place : Place) : Reading String := do
  match ← place.followed with
  | .scalar _ _ _ s => return s
  | _ => failure

/-- The natural number of at most so many bits that a scalar writes: a plain one, or a literal one
with the tag for whole numbers. -/
def natural (bits : Nat) (place : Place) : Reading Nat := do
  match ← place.followed with
  | .scalar _ tag style s =>
    let tagged := style = .literal && tag = some (encodeUtf8 "tag:yaml.org,2002:int".toList)
    if style = .plain || tagged then
      (Meaning.natural? (Nat.pow 2 bits - 1) s.toList).elim failure pure
    else failure
  | _ => failure

/-- Whether a scalar stands for nothing. One with the tag for null has to be null. -/
def isAbsent (tag : Option Bytes) (style : Style) (s : String) : Option Bool :=
  if style ≠ .plain then some false
  else if tag = some (encodeUtf8 "tag:yaml.org,2002:null".toList) then
    if Meaning.nulls.contains s then some true else none
  else if tag.isSome then some false
  else some (s.isEmpty || Meaning.nulls.contains s)

/-- Nothing, or what the reader makes of the node. -/
def optional (read : Place → Reading α) (place : Place) : Reading (Option α) := do
  let node ← place.followed
  let absent ← match node with
    | .scalar _ tag style s => (isAbsent tag style s).elim failure pure
    | _ => pure false
  if absent then return none else some <$> read { place with node }

/-- A value by what its scalars mean. The names of fields are taken as they are written, and of
several values of one field the last one is taken. -/
def dataAt : Nat → Node → Reading Data
  | depth, node => do
    match ← (Place.mk node depth).followed, depth with
    | .scalar _ tag style s, _ =>
      match Meaning.ofScalar tag style s with
      | some .null => return .null
      | some (.bool b) => return .bool b
      | some (.whole n) => return .int n
      | some (.float (some x)) => return .float x
      | some (.float none) => return .null
      | some .itself => return .text s
      | some .tooLarge | none => failure
    | .sequence _ tag items, depth + 1 =>
      if isLocal tag then failure
      return .list (← items.mapM (dataAt depth))
    | .mapping _ tag entries, depth + 1 =>
      if isLocal tag then failure
      return .ofFields (← entries.mapM fun (key, value) =>
        return (← Place.text ⟨key, depth⟩, ← dataAt depth value))
    | _, _ => failure
where
  /-- Whether a tag is one that only the document knows. -/
  isLocal (tag : Option Bytes) : Bool := (tag.bind (·.head?)) = some 33

/-- A value by what its scalars mean. -/
def data (place : Place) : Reading Data := dataAt place.depth place.node

/-- A record from a mapping: each field that the shape names is put into `start`, and none may come
twice. Other fields are passed over. -/
def record (shape : RecordShape) (put : α → String → Place → Reading α) (start : α)
    (place : Place) : Reading α := do
  let step (state : α × List String) (entry : Place × Place) : Reading (α × List String) := do
    let name ← entry.1.text
    if !shape.fields.any (·.1 = name) then return state
    if state.2.contains name then failure
    return (← put state.1 name entry.2, name :: state.2)
  return (← (← place.entries).foldlM step (start, [])).1

instance : Source Place Reading where
  text _ := text
  natural := natural
  optional := optional
  items read place := do (← place.items).mapM read
  data := data
  record := record
  missing _ := failure

end Place

/-- What a reader makes of the only document of a text. A text without a document is read like one
with nothing written in it. -/
def readText (read : Place → Reading α) (text : List Char) : Option α := do
  let document ← Document.ofText? text
  let place : Place := ⟨document.root.getD .nothing, Place.maxDepth⟩
  return (← (read place).run document 0).1

end Upkeep.Yaml
