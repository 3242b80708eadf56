import Upkeep.Data.Basic
import Upkeep.Session.Buffer

/-!
# Inventories — the nodes of a device and their states

A device lists its cards, processors and power supplies in a table: a header, a rule of dashes
that shows where the columns are, and a row for each slot up to a blank line. `Inventory.ofTable`
reads the first such table of a text; `Inventory.converged` tells whether all nodes are up.
-/

namespace Upkeep

/-- A node of a device, as the device reports it. -/
structure Node where
  kind : String
  state : String
  deriving DecidableEq, Repr

/-- Nodes by their slots, in the order of the slots. -/
abbrev Inventory := List (String × Node)

/-- The states of nodes that are up, or whose failure does not matter. -/
def acceptedStates : List String :=
  ["ok", "ok, active", "ok, standby", "ps, fail", "out of service", "N/A"]

/-- Whether a node is in an accepted state. -/
def Node.isAccepted (node : Node) : Bool := acceptedStates.contains node.state

namespace Inventory

/-- Whether a text has a piece in it. -/
def hasPiece (piece : List Char) : List Char → Bool
  | [] => piece.isEmpty
  | c :: rest => piece.isPrefixOf (c :: rest) || hasPiece piece rest

/-- Whether a line is the header of the table. -/
def isHeader (line : Text) : Bool :=
  let line := trimStart line
  "Slot".toList.isPrefixOf line && hasPiece "State".toList line

/-- The byte offsets at which the groups of dashes in a rule start. `offset` is where the text
stands and `dashed` whether a dash is before it. -/
def groupStarts (offset : Nat) (dashed : Bool) : Text → List Nat
  | [] => []
  | c :: rest =>
    let others := groupStarts (offset + c.utf8Size) (c = '-') rest
    if c = '-' && !dashed then offset :: others else others

/-- The columns of a rule: where each one starts. -/
def columns (rule : Text) : List Nat := groupStarts 0 false rule

/-- The text of a cell between two byte offsets; none of it where an offset falls into a
character. -/
def cell (line : Text) (first : Nat) (last : Option Nat) : String :=
  let length := byteLength line
  let last := match last with
    | some last => min last length
    | none => length
  String.ofList (trim ((sliceBytes? (min first length) last line).getD []))

/-- The slot and the node of a row, for the starts of the second and the third column and of the
fourth one, if there is one. What stands left of the first column counts for it. -/
def row (second third : Nat) (fourth : Option Nat) (line : Text) : String × Node :=
  (cell line 0 (some second), ⟨cell line second (some third), cell line third fourth⟩)

/-- The nodes of the rows up to a blank line. Rows without a slot are passed over; of two rows for
one slot the later one holds. -/
def ofRows (second third : Nat) (fourth : Option Nat) (rows : List Text) : Inventory :=
  let rows := (rows.takeWhile fun line => !(line.all isBlank)).map (row second third fourth)
  Fields.ofList (rows.filter fun entry => entry.1 ≠ "")

/-- The nodes of the first table in a text. -/
def ofTable (text : Text) : Inventory :=
  match (lines text).dropWhile (fun line => !isHeader line) with
  | _ :: rule :: rows =>
    match columns rule with
    | _ :: second :: third :: others => ofRows second third others.head? rows
    | _ => []
  | _ => []

/-- Whether there are nodes and all of them are accepted. -/
def converged (accepts : Node → Bool) (inventory : Inventory) : Bool :=
  !inventory.isEmpty && inventory.all fun (_, node) => accepts node

end Inventory

end Upkeep
