import Upkeep.Plugin.Basic

/-!
# Node status check — all nodes up, none gone

The check reads the device's inventory and keeps it for the next check. A check after the work
warns of nodes that the check before it had seen. Nodes that are not up make it fail, after the
inventory is kept.
-/

namespace Upkeep

/-- The inventory as data. -/
def Inventory.toData (inventory : Inventory) : Data :=
  .record (inventory.map fun (slot, node) =>
    (slot, .ofFields [("kind", .text node.kind), ("state", .text node.state)]))

/-- The fields of a node. -/
def Node.shape : RecordShape where
  label := "struct NodeState"
  fields := [("kind", true), ("state", true)]

/-- A node from data. -/
def Node.ofData (value : Data) : Data.Decoded Node := do
  let put (found : Option String × Option String) (field : String) (value : Data) :
      Data.Decoded (Option String × Option String) :=
    match field with
    | "kind" => return (some (← value.toText "a string"), found.2)
    | _ => return (found.1, some (← value.toText "a string"))
  match ← value.toRecord shape put (none, none) with
  | (some kind, some state) => return ⟨kind, state⟩
  | (none, _) => throw (.missingField "kind")
  | (_, none) => throw (.missingField "state")

/-- An inventory from data. -/
def Inventory.ofData (value : Data) : Data.Decoded Inventory := value.toFields Node.ofData

/-- The limit of commands that show something. -/
def showLimit : Duration := .ofSecs 120

/-- Runs a command over the job's session and gives its output. -/
def Task.showOutput [Session σ] (command : String) : Task σ Text :=
  Task.overSession .session (Link.command command showLimit)

namespace NodeStatus

/-- The store's key for the inventory. -/
def inventoryKey : String := "node_inventory"

/-- The warning about a node that is gone. -/
def goneMessage (slot : String) (seen : Instant) : String :=
  "Node " ++ slot ++ " seen at " ++ seen.render ++ " is missing"

/-- Warns of the nodes of the stored inventory that an inventory does not have. -/
def compare (inventory : Inventory) : Task σ Unit := do
  match ← Task.loadAs? Inventory.ofData inventoryKey with
  | none => pure ()
  | some (before, seen) =>
    let gone := before.filter fun (slot, _) => (Fields.get? slot inventory).isNone
    gone.forM fun (slot, _) => Task.warn (goneMessage slot seen)

/-- The nodes of an inventory that are not up, as the failure lists them. -/
def down (inventory : Inventory) : List String :=
  (inventory.filter fun (_, node) => !node.isAccepted).map fun (slot, node) =>
    slot ++ " (" ++ node.state ++ ")"

variable [Session σ]

/-- Checks the nodes. -/
def check : Task σ Unit := do
  let output ← Task.showOutput "show platform"
  let hostname := (← Task.job).assignment.hostname
  let _ ← Task.saveFile (hostname ++ "-show platform") (String.ofList output)
  let inventory := Inventory.ofTable output
  if inventory.isEmpty then Task.failWith "Failed to parse the output of 'show platform'"
  if (← Task.job).assignment.phase = some "Post-Check" then compare inventory
  Task.save inventoryKey inventory.toData
  if !(down inventory).isEmpty then
    Task.failWith ("Node(s) not in desired state: " ++ ", ".intercalate (down inventory))
  Task.log .info "All nodes in desired state"

/-- The plugin. -/
def plugin : Plugin σ where
  manifest :=
    ((Manifest.named "Node Status Check").forPhases ["Pre-Check", "Post-Check"]).forOs ["XE"]
      |>.describedAs "Verify that all nodes are in a valid state"
  task := check

end NodeStatus

end Upkeep
