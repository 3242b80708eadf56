import Upkeep.Dialogue.Install
import Upkeep.Plugin.Basic

/-!
# Activation — new software on the device

The configuration is saved first. The device is then reloaded, or upgraded in service with a
package that the plugin's data names; without one there the job's first package is taken. At last
all nodes have to come back.
-/

namespace Upkeep

namespace Activation

/-- How new software is activated. -/
inductive Mode where
  | reload
  | inService
  deriving DecidableEq, Repr

/-- What the plugin's data may say. -/
structure Settings where
  mode : Mode := .reload
  package : Option String := none
  deriving DecidableEq, Repr

/-- The fields of the plugin's data. -/
def Settings.shape : RecordShape where
  label := "struct ActivateData"
  fields := [("mode", false), ("package", true)]

/-- The settings with a field read from data. -/
def Settings.put (settings : Settings) (field : String) (value : Data) : Data.Decoded Settings :=
  match field with
  | "mode" => do
    let mode ← value.toVariant ["reload", "issu"]
    return { settings with mode := if mode = "issu" then .inService else .reload }
  | _ => return { settings with package := ← Source.textOption value }

/-- The settings in the plugin's data. -/
def Settings.ofData (value : Data) : Data.Decoded Settings := value.toRecord shape put {}

/-- The command of an upgrade in service. -/
def upgradeCommand (package : String) : String :=
  "request platform software package install node file bootflash:" ++ package

/-- The time given to the processors after an upgrade in service. -/
def upgradeSettle : Duration := .ofSecs 300

variable {σ : Type} [Session σ]

/-- Reloads the device. -/
def reload : Task σ Unit := do
  let message := "Waiting the reload operation to continue"
  Task.log .info message
  Task.postStatus message
  Task.converse .reload "reload"

/-- Upgrades the device in service. -/
def upgrade (settings : Settings) : Task σ Unit := do
  let packages := (← Task.job).assignment.packages
  match settings.package.or packages.head? with
  | none => Task.failWith "No package given for ISSU"
  | some package =>
    Task.postStatus "Running ISSU"
    Task.converse .inService (upgradeCommand package)
    Task.sleep upgradeSettle

/-- Waits until the device is back. -/
def awaitDevice : Task σ Unit := do
  let check := (← Task.job).assignment.reload
  match ← (Task.converge check).attempt with
  | .ok _ => pure ()
  | .error error =>
    Task.warn "Reload or boot failure"
    Task.fail error

/-- Activates new software. -/
def activate : Task σ Unit := do
  let settings ← match (← Task.job).pluginData? with
    | some value => Task.decode (Settings.ofData value)
    | none => pure {}
  let prompt ← Task.overSession .session (do return Session.prompt (← get).session)
  Task.converse (.writeMemory prompt) "write memory"
  match settings.mode with
  | .reload => reload
  | .inService => upgrade settings
  awaitDevice
  Task.log .info "Operation reload finished successfully"

/-- The plugin. -/
def plugin : Plugin σ where
  manifest :=
    ((Manifest.named "Install Activate").forPhases ["Activate"]).forPlatforms ["ASR900"]
      |>.forOs ["XE"] |>.describedAs "Activate software packages"
  task := activate

end Activation

end Upkeep
