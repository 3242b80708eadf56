import Upkeep.Yaml.Scan

/-!
# From tokens to nodes

A document is a tree of scalars, sequences and mappings; anchors name nodes and aliases stand for
them. `Document.ofText?` reads a text that holds one document or none.
-/

namespace Upkeep.Yaml

/-- A node of a document. Anchors and aliases are given by number. -/
inductive Node where
  | scalar (anchor : Option Nat) (tag : Option Bytes) (style : Style) (text : String)
  | sequence (anchor : Option Nat) (tag : Option Bytes) (items : List Node)
  | mapping (anchor : Option Nat) (tag : Option Bytes) (entries : List (Node × Node))
  | alias (target : Nat)
  deriving Inhabited, Repr

namespace Node

/-- The scalar that stands where nothing is written. -/
def nothing : Node := .scalar none none .plain ""

mutual

/-- How many parts the node is made of: a scalar or an alias is one, a collection has a start and
an end besides its members. -/
def size : Node → Nat
  | .scalar .. => 1
  | .alias _ => 1
  | .sequence _ _ items => sizeItems items + 2
  | .mapping _ _ entries => sizeEntries entries + 2

/-- The parts of several nodes. -/
def sizeItems : List Node → Nat
  | [] => 0
  | node :: rest => size node + sizeItems rest

/-- The parts of several entries. -/
def sizeEntries : List (Node × Node) → Nat
  | [] => 0
  | (key, value) :: rest => size key + size value + sizeEntries rest

end

/-- The anchor of a node, with the node. -/
def anchored (node : Node) : List (Nat × Node) :=
  match node with
  | .scalar (some n) .. | .sequence (some n) .. | .mapping (some n) .. => [(n, node)]
  | _ => []

mutual

/-- The anchored nodes of a tree in the order of the text. -/
def anchors : Node → List (Nat × Node)
  | .sequence anchor tag items => anchored (.sequence anchor tag items) ++ anchorsItems items
  | .mapping anchor tag entries => anchored (.mapping anchor tag entries) ++ anchorsEntries entries
  | node => anchored node

/-- The anchored nodes of several trees. -/
def anchorsItems : List Node → List (Nat × Node)
  | [] => []
  | node :: rest => anchors node ++ anchorsItems rest

/-- The anchored nodes of several entries. -/
def anchorsEntries : List (Node × Node) → List (Nat × Node)
  | [] => []
  | (key, value) :: rest => anchors key ++ anchors value ++ anchorsEntries rest

end

end Node

/-- What is left to read, and what is known. -/
structure NodeReader where
  tokens : List Token
  /-- What the handles of tags stand for. -/
  handles : List (String × Bytes) := []
  /-- The numbers of the anchors met. -/
  anchors : List (String × Nat) := []

/-- Reading from tokens. -/
abbrev NodeM := StateT NodeReader Option

namespace NodeReader

/-- The next token. -/
def peek? : NodeM (Option Token) := return (← get).tokens.head?

/-- Drops the next token. -/
def drop : NodeM Unit := modify fun r => { r with tokens := r.tokens.drop 1 }

/-- Drops the next token, which has to be the given one. -/
def expect (token : Token) : NodeM Unit := do
  if (← peek?) = some token then drop else failure

/-- Gives an anchor a number: as many as there are other names. A name met again counts anew. -/
def number (name : String) : NodeM Nat := do
  let known := (← get).anchors
  modify fun r => { r with anchors := (name, known.length) :: known.filter (·.1 ≠ name) }
  return known.length

/-- The number of the anchor with a name. -/
def target (name : String) : NodeM Nat := do
  match (← get).anchors.find? (·.1 = name) with
  | some (_, n) => return n
  | none => failure

/-- What a tag stands for. -/
def expand (handle : String) (suffix : Bytes) : NodeM Bytes := do
  if handle.isEmpty then return suffix
  match (← get).handles.find? (·.1 = handle) with
  | some (_, expansion) => return expansion ++ suffix
  | none => failure

/-- An anchor and a tag before a node, in either order. -/
def properties : NodeM (Option Nat × Option Bytes) := do
  match ← peek? with
  | some (.anchor name) =>
    drop
    match ← peek? with
    | some (.tag handle suffix) =>
      drop
      let tag ← expand handle suffix
      return (some (← number name), some tag)
    | _ => return (some (← number name), none)
  | some (.tag handle suffix) =>
    drop
    match ← peek? with
    | some (.anchor name) =>
      drop
      let tag ← expand handle suffix
      return (some (← number name), some tag)
    | _ => return (none, some (← expand handle suffix))
  | _ => return (none, none)

/-- Whether the next token is one of those given; the end of the tokens is none. -/
def isOneOf (tokens : List Token) : NodeM Bool := do
  match ← peek? with
  | some token => return tokens.contains token
  | none => return false

mutual

/-- Reads a node. Block collections are nodes where `block` is set; a sequence that is not indented
is one where `flat` is set. -/
def node (fuel : Nat) (block flat : Bool) : NodeM Node :=
  match fuel with
  | 0 => failure
  | fuel + 1 => do
    match ← peek? with
    | some (.alias name) =>
      drop
      return .alias (← target name)
    | _ =>
      let (anchor, tag) ← properties
      match ← peek? with
      | some .blockEntry =>
        if flat then return .sequence anchor tag (← flatItems fuel)
        else if anchor.isSome || tag.isSome then return .scalar anchor tag .plain ""
        else failure
      | some (.scalar style text) =>
        drop
        let tag := if tag = some (encodeUtf8 ['!']) then none else tag
        return .scalar anchor tag style text
      | some .flowSequenceStart =>
        drop
        return .sequence anchor tag (← flowItems fuel true)
      | some .flowMappingStart =>
        drop
        return .mapping anchor tag (← flowEntries fuel true)
      | next =>
        if block && next = some .blockSequenceStart then
          drop
          return .sequence anchor tag (← blockItems fuel)
        else if block && next = some .blockMappingStart then
          drop
          return .mapping anchor tag (← blockEntries fuel)
        else if anchor.isSome || tag.isSome then return .scalar anchor tag .plain ""
        else failure

/-- Reads a node of a block unless one of the given tokens is next, where nothing is written. -/
def nodeUnless (fuel : Nat) (flat : Bool) (ends : List Token) : NodeM Node :=
  match fuel with
  | 0 => failure
  | fuel + 1 => do
    if ← isOneOf ends then return .nothing else node fuel true flat

/-- Reads a node of a flow collection unless one of the given tokens is next. -/
def flowNodeUnless (fuel : Nat) (ends : List Token) : NodeM Node :=
  match fuel with
  | 0 => failure
  | fuel + 1 => do
    if ← isOneOf ends then return .nothing else node fuel false false

/-- Reads the items of a block sequence. -/
def blockItems (fuel : Nat) : NodeM (List Node) :=
  match fuel with
  | 0 => failure
  | fuel + 1 => do
    match ← peek? with
    | some .blockEntry =>
      drop
      let item ← nodeUnless fuel false [.blockEntry, .blockEnd]
      return item :: (← blockItems fuel)
    | some .blockEnd =>
      drop
      return []
    | _ => failure

/-- Reads the items of a sequence that is not indented. -/
def flatItems (fuel : Nat) : NodeM (List Node) :=
  match fuel with
  | 0 => failure
  | fuel + 1 => do
    match ← peek? with
    | some .blockEntry =>
      drop
      let item ← nodeUnless fuel false [.blockEntry, .key, .value, .blockEnd]
      return item :: (← flatItems fuel)
    | _ => return []

/-- Reads the entries of a block mapping. -/
def blockEntries (fuel : Nat) : NodeM (List (Node × Node)) :=
  match fuel with
  | 0 => failure
  | fuel + 1 => do
    match ← peek? with
    | some .key =>
      drop
      let key ← nodeUnless fuel true [.key, .value, .blockEnd]
      let value ← blockValue fuel
      return (key, value) :: (← blockEntries fuel)
    | some .blockEnd =>
      drop
      return []
    | _ => failure

/-- Reads the value of an entry of a block mapping. -/
def blockValue (fuel : Nat) : NodeM Node :=
  match fuel with
  | 0 => failure
  | fuel + 1 => do
    match ← peek? with
    | some .value =>
      drop
      nodeUnless fuel true [.key, .value, .blockEnd]
    | _ => return .nothing

/-- Reads the items of a flow sequence; `first` tells that none has been read. -/
def flowItems (fuel : Nat) (first : Bool) : NodeM (List Node) :=
  match fuel with
  | 0 => failure
  | fuel + 1 => do
    if (← peek?) = some .flowSequenceEnd then
      drop
      return []
    if !first then expect .flowEntry
    match ← peek? with
    | some .flowSequenceEnd =>
      drop
      return []
    | some .key =>
      drop
      let entry ← flowPair fuel
      return .mapping none none [entry] :: (← flowItems fuel false)
    | _ =>
      let item ← node fuel false false
      return item :: (← flowItems fuel false)

/-- Reads an entry that is an item of a flow sequence. Where no key is written the token behind it
is passed over. -/
def flowPair (fuel : Nat) : NodeM (Node × Node) :=
  match fuel with
  | 0 => failure
  | fuel + 1 => do
    let key ←
      if ← isOneOf [.value, .flowEntry, .flowSequenceEnd] then
        drop
        pure Node.nothing
      else node fuel false false
    if (← peek?) = some .value then
      drop
      return (key, ← flowNodeUnless fuel [.flowEntry, .flowSequenceEnd])
    else return (key, .nothing)

/-- Reads the entries of a flow mapping; `first` tells that none has been read. -/
def flowEntries (fuel : Nat) (first : Bool) : NodeM (List (Node × Node)) :=
  match fuel with
  | 0 => failure
  | fuel + 1 => do
    if (← peek?) = some .flowMappingEnd then
      drop
      return []
    if !first then expect .flowEntry
    match ← peek? with
    | some .flowMappingEnd =>
      drop
      return []
    | some .key =>
      drop
      let key ← flowNodeUnless fuel [.value, .flowEntry, .flowMappingEnd]
      let value ←
        if (← peek?) = some .value then
          drop
          flowNodeUnless fuel [.flowEntry, .flowMappingEnd]
        else pure Node.nothing
      return (key, value) :: (← flowEntries fuel false)
    | _ =>
      let key ← node fuel false false
      return (key, .nothing) :: (← flowEntries fuel false)

end

/-- What the handles stand for that need no directive. -/
def standardHandles : List (String × Bytes) :=
  [("!", encodeUtf8 "!".toList), ("!!", encodeUtf8 "tag:yaml.org,2002:".toList)]

/-- Reads the directives before a document: at most one version, which has to be 1.1 or 1.2, and
one shorthand for each handle. -/
def directives : Nat → Bool → NodeM Unit
  | 0, _ => failure
  | fuel + 1, versioned => do
    match ← peek? with
    | some (.version major minor) =>
      if versioned || major ≠ 1 || (minor ≠ 1 && minor ≠ 2) then failure
      drop
      directives fuel true
    | some (.tagShorthand handle expansion) =>
      if (← get).handles.any (·.1 = handle) then failure
      drop
      modify fun r => { r with handles := (handle, expansion) :: r.handles }
      directives fuel versioned
    | _ => modify fun r => { r with handles := r.handles ++ standardHandles }

/-- Whether a token begins or ends a document. -/
def isDocumentBoundary : Option Token → Bool
  | none => true
  | some (.version ..) | some (.tagShorthand ..) | some .documentStart | some .documentEnd => true
  | _ => false

/-- Drops the markers of the document's end. -/
def dropEnds : NodeM Unit := modify fun r =>
  { r with tokens := r.tokens.dropWhile (· = .documentEnd) }

/-- Reads the only document; nothing if there is none. -/
def document : NodeM (Option Node) := do
  let fuel := 4 * (← get).tokens.length + 4
  let root ←
    match ← peek? with
    | none => return none
    | some .documentEnd => failure
    | first =>
      directives fuel false
      if isDocumentBoundary first then
        expect .documentStart
        if isDocumentBoundary (← peek?) then pure Node.nothing else node fuel true false
      else node fuel true false
  dropEnds
  match ← peek? with
  | none => return some root
  | some _ => failure

end NodeReader

/-- A document: its root, if there is one, and the nodes that aliases stand for. -/
structure Document where
  root : Option Node
  targets : List (Nat × Node) := []
  /-- How many parts the document is made of. -/
  size : Nat := 1
  deriving Repr

namespace Document

/-- The document with a root. A number that two anchors have stands for the later one. -/
def ofRoot : Option Node → Document
  | none => { root := none }
  | some root => { root := some root, targets := root.anchors.reverse, size := root.size }

/-- The node that an alias stands for. -/
def target? (document : Document) (n : Nat) : Option Node :=
  (document.targets.find? (·.1 = n)).map (·.2)

/-- The only document of a text. -/
def ofText? (text : List Char) : Option Document := do
  let tokens ← tokens? text
  let (root, _) ← NodeReader.document.run { tokens }
  return ofRoot root

end Document

end Upkeep.Yaml
