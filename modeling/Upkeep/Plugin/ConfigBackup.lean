import Upkeep.Plugin.NodeStatus

/-!
# Configuration backup — the running configuration as a file

The backup writes the running configuration into the log directory and keeps the file's path in
the store. An empty configuration makes it fail.
-/

namespace Upkeep

namespace ConfigBackup

/-- The store's key for the path. -/
def pathKey : String := "config_backup"

variable {σ : Type} [Session σ]

/-- Saves the running configuration. -/
def backup : Task σ Unit := do
  let output ← Task.showOutput "show running-config"
  if output.all isBlank then Task.failWith "Empty output of 'show running-config'"
  let hostname := (← Task.job).assignment.hostname
  let path ← Task.saveFile (hostname ++ "-show running-config") (String.ofList output)
  Task.save pathKey (.text path)

/-- The plugin. -/
def plugin : Plugin σ where
  manifest :=
    ((Manifest.named "Config Backup").forPhases ["Pre-Activate", "Pre-Migrate"]).forOs ["XE"]
      |>.describedAs "Save the running configuration"
  task := backup

end ConfigBackup

end Upkeep
