import Upkeep.Job.Basic
import Upkeep.Phase
import Upkeep.Session.Invocation
import Upkeep.Yaml.Reading

/-!
# Job settings — what a job file and the command line say

Settings are read from a job file or from data, by one reader for both. `JobSettings.check` tells
what is wrong with them and `JobSettings.job` makes them a job. Settings that pass the check can
always be made one.
-/

namespace Upkeep

/-- A step of an explicit order: a plugin and its data. -/
structure JobStep where
  plugin : String
  data : Data := .null

/-- Times for the wait after a reload, in seconds; what is not given stays as it is. -/
structure ReloadSettings where
  warmup : Option Nat := none
  settle : Option Nat := none
  pollInterval : Option Nat := none
  maxAttempts : Option Nat := none
  overallLimit : Option Nat := none
  deriving DecidableEq, Repr

/-- What is known of a job before it starts. -/
structure JobSettings where
  hostname : Option String := none
  /-- The urls on the way to the device, its own last. -/
  urls : List String := []
  phase : Option String := none
  platform : Option String := none
  os : Option String := none
  logDir : Option String := none
  packages : List String := []
  repositoryUrl : Option String := none
  commands : List String := []
  /-- The names to which a job without an order is restricted. -/
  plugins : List String := []
  /-- The order of the plugins, with their data. -/
  steps : Option (List JobStep) := none
  /-- The file that declares script plugins. -/
  scripts : Option String := none
  reload : Option ReloadSettings := none

/-! ### Reading -/

section Reading

variable {m : Type → Type} {ν : Type} [Monad m] [Source ν m]

/-- The fields of a step. -/
def JobStep.shape : RecordShape where
  label := "struct MopStep"
  fields := [("plugin", true), ("data", false)]

/-- A step. -/
def JobStep.read (node : ν) : m JobStep := do
  let put (found : Option String × Data) (field : String) (node : ν) : m (Option String × Data) :=
    match field with
    | "plugin" => return (some (← Source.text "a string" node), found.2)
    | _ => return (found.1, ← Source.data node)
  match ← Source.record shape put (none, .null) node with
  | (some plugin, data) => return { plugin, data }
  | (none, _) => Source.missing (ν := ν) "plugin"

/-- The fields of the times after a reload. -/
def ReloadSettings.shape : RecordShape where
  label := "struct ReloadConfig"
  fields := [("warmup", false), ("settle", false), ("poll_interval", false),
    ("max_attempts", false), ("overall_timeout", false)]

/-- The times with a field read. -/
def ReloadSettings.put (reload : ReloadSettings) (field : String) (node : ν) :
    m ReloadSettings := do
  let natural (bits : Nat) : m (Option Nat) := Source.optional (Source.natural bits) node
  match field with
  | "warmup" => return { reload with warmup := ← natural 64 }
  | "settle" => return { reload with settle := ← natural 64 }
  | "poll_interval" => return { reload with pollInterval := ← natural 64 }
  | "max_attempts" => return { reload with maxAttempts := ← natural 32 }
  | "overall_timeout" => return { reload with overallLimit := ← natural 64 }
  | _ => return reload

/-- The times after a reload. -/
def ReloadSettings.read (node : ν) : m ReloadSettings := Source.record shape put {} node

/-- The fields of settings. -/
def JobSettings.shape : RecordShape where
  label := "struct JobConfig"
  fields := ["hostname", "urls", "phase", "platform", "os", "log_dir", "packages",
    "repository_url", "commands", "plugins", "mop", "scripts", "reload"].map (·, false)

/-- The settings with a field read. -/
def JobSettings.put (settings : JobSettings) (field : String) (node : ν) : m JobSettings := do
  let path : ν → m (Option String) := Source.optional (Source.text "path string")
  match field with
  | "hostname" => return { settings with hostname := ← Source.textOption node }
  | "urls" => return { settings with urls := ← Source.texts node }
  | "phase" => return { settings with phase := ← Source.textOption node }
  | "platform" => return { settings with platform := ← Source.textOption node }
  | "os" => return { settings with os := ← Source.textOption node }
  | "log_dir" => return { settings with logDir := ← path node }
  | "packages" => return { settings with packages := ← Source.texts node }
  | "repository_url" => return { settings with repositoryUrl := ← Source.textOption node }
  | "commands" => return { settings with commands := ← Source.texts node }
  | "plugins" => return { settings with plugins := ← Source.texts node }
  | "mop" =>
    return { settings with steps := ← Source.optional (Source.items JobStep.read) node }
  | "scripts" => return { settings with scripts := ← path node }
  | "reload" => return { settings with reload := ← Source.optional ReloadSettings.read node }
  | _ => return settings

/-- The settings of a document. -/
def JobSettings.read (node : ν) : m JobSettings := Source.record shape put {} node

end Reading

/-! ### Writing -/

/-- A number as data, or null. -/
def natOrNull (n : Option Nat) : Data := .orNull (n.map .nat)

/-- The step as data. -/
def JobStep.toData (step : JobStep) : Data :=
  .ofFields [("plugin", .text step.plugin), ("data", step.data)]

/-- The times as data. -/
def ReloadSettings.toData (reload : ReloadSettings) : Data :=
  .ofFields [("warmup", natOrNull reload.warmup), ("settle", natOrNull reload.settle),
    ("poll_interval", natOrNull reload.pollInterval),
    ("max_attempts", natOrNull reload.maxAttempts),
    ("overall_timeout", natOrNull reload.overallLimit)]

/-- The settings as data. -/
def JobSettings.toData (settings : JobSettings) : Data :=
  .ofFields [("hostname", .textOrNull settings.hostname), ("urls", .texts settings.urls),
    ("phase", .textOrNull settings.phase), ("platform", .textOrNull settings.platform),
    ("os", .textOrNull settings.os), ("log_dir", .textOrNull settings.logDir),
    ("packages", .texts settings.packages),
    ("repository_url", .textOrNull settings.repositoryUrl),
    ("commands", .texts settings.commands), ("plugins", .texts settings.plugins),
    ("mop", .orNull (settings.steps.map fun steps => .list (steps.map JobStep.toData))),
    ("scripts", .textOrNull settings.scripts),
    ("reload", .orNull (settings.reload.map ReloadSettings.toData))]

/-! ### Checking and using -/

/-- Why settings cannot be had or used. -/
inductive SettingsError where
  | unreadable (path : String) (error : IoError)
  | malformed (path : String)
  | unknownPhase (phase : String)
  | url (error : SessionError)
  /-- The order is there and empty. -/
  | noSteps
  /-- A step of the order, counted from 1, has a blank name. -/
  | unnamedStep (number : Nat)
  /-- There is neither a phase nor an order. -/
  | noPhase
  deriving DecidableEq, Repr

/-- The complaint in words. -/
def SettingsError.message : SettingsError → String
  | .unreadable path error => "failed to read " ++ path ++ ": " ++ error.message
  | .malformed path => "failed to parse YAML " ++ path
  | .unknownPhase phase => "unknown phase '" ++ phase ++ "'"
  | .url error => error.message
  | .noSteps => "mop lists no plugins"
  | .unnamedStep number => "mop step " ++ toString number ++ " has no plugin name"
  | .noPhase => "either a phase or a mop is required"

/-- The check with the times that are given. -/
def ReloadSettings.apply (reload : ReloadSettings) (check : ConvergenceCheck) :
    ConvergenceCheck :=
  let secs (given : Option Nat) (old : Duration) : Duration := (given.map .ofSecs).getD old
  { check with
    warmup := secs reload.warmup check.warmup
    settle := secs reload.settle check.settle
    pollInterval := secs reload.pollInterval check.pollInterval
    maxAttempts := reload.maxAttempts.getD check.maxAttempts
    overallLimit := secs reload.overallLimit check.overallLimit }

namespace JobSettings

/-- The directory for logs and files. -/
def logDirectory (settings : JobSettings) : String := settings.logDir.getD ".devpipe"

/-- The names of the explicit order, if there is one. -/
def order (settings : JobSettings) : Option (List String) :=
  settings.steps.map fun steps => steps.map (·.plugin)

/-- The settings in the file at a path. -/
def load (files : Files) (path : String) : Except SettingsError JobSettings :=
  match files.readText path with
  | .error e => .error (.unreadable path e)
  | .ok text =>
    match Yaml.readText JobSettings.read text.toList with
    | some settings => .ok settings
    | none => .error (.malformed path)

/-- The invocation of the client for some urls. -/
def invocation (urls : List String) : Except SettingsError Invocation :=
  (Invocation.ofUrls urls).mapError .url

/-- Checks the phase. -/
def checkPhase (settings : JobSettings) : Except SettingsError Unit :=
  match settings.phase with
  | some phase => if isKnownPhase phase then .ok () else .error (.unknownPhase phase)
  | none => .ok ()

/-- Checks the urls one by one, and several of them together. -/
def checkUrls (settings : JobSettings) : Except SettingsError Unit := do
  settings.urls.forM fun url => do
    let _ ← (Invocation.readUrl url).mapError .url
  if 1 < settings.urls.length then
    let _ ← invocation settings.urls

/-- Checks the order, or that there is a phase. -/
def checkSteps (settings : JobSettings) : Except SettingsError Unit :=
  match settings.steps with
  | some [] => .error .noSteps
  | some steps =>
    match steps.findIdx? fun step => isBlankString step.plugin with
    | some index => .error (.unnamedStep (index + 1))
    | none => .ok ()
  | none => if settings.phase.isNone then .error .noPhase else .ok ()

/-- Checks phase, urls and order. -/
def check (settings : JobSettings) : Except SettingsError Unit := do
  settings.checkPhase
  settings.checkUrls
  settings.checkSteps

/-- The settings in the file at a path, if they pass the check. -/
def loadChecked (files : Files) (path : String) : Except SettingsError JobSettings := do
  let settings ← load files path
  settings.check
  return settings

/-- The client for the job's session, if it has one. -/
def client (settings : JobSettings) : Except SettingsError (Option Invocation) :=
  if settings.urls.isEmpty then .ok none else (invocation settings.urls).map some

/-- What the job is asked to do. -/
def assignment (settings : JobSettings) : Assignment where
  hostname := settings.hostname.getD ""
  phase := settings.phase
  platform := settings.platform
  os := settings.os
  order := settings.order
  nameFilter := settings.plugins
  logDir := settings.logDirectory
  packages := settings.packages
  repositoryUrl := settings.repositoryUrl
  commands := settings.commands
  reload := (settings.reload.map (·.apply {})).getD {}

/-- The data of the plugins, by their places in the order. -/
def pluginData (settings : JobSettings) : List Data :=
  (settings.steps.getD []).map (·.data)

/-- The job on a host, with the session that `connect` makes of the client if there is one. -/
def job {σ : Type} (connect : Invocation → σ) (host : Host) (settings : JobSettings) :
    Except SettingsError (Job σ) := do
  let client ← settings.client
  return { assignment := settings.assignment, session := client.map connect, host
           data := settings.pluginData }

end JobSettings

end Upkeep
