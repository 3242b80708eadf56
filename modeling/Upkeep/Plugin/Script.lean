import Upkeep.Plugin.Basic

/-!
# Script plugins — commands on the host

A script plugin runs a command of the host's shell in the log directory. Its data may give another
command for one run. What a finished command has printed goes to the script log before its exit
status is judged. The shell itself is a parameter: a `CommandRunner`.
-/

namespace Upkeep

/-- How a process has ended. -/
inductive ExitStatus where
  | code (n : Nat)
  | signal
  deriving DecidableEq, Repr

/-- Whether the process succeeded. -/
def ExitStatus.success (status : ExitStatus) : Bool := status = .code 0

/-- The exit code in a message. -/
def ExitStatus.shown : ExitStatus → String
  | .code n => "Some(" ++ toString n ++ ")"
  | .signal => "None"

/-- What a command comes to. -/
inductive Completion where
  /-- What it printed, with what it printed as errors behind the rest. -/
  | finished (output : String) (status : ExitStatus)
  | failed (error : IoError)
  | timedOut
  deriving DecidableEq, Repr

/-- Runs a command in a directory, within a limit. -/
abbrev CommandRunner := (command directory : String) → Duration → Files → Completion × Files

/-- The declaration of a script plugin. -/
structure Script where
  manifest : Manifest := {}
  command : String := ""
  /-- The limit in seconds. -/
  limitSecs : Option Nat := none
  deriving DecidableEq, Repr

namespace Script

/-- The limit of a run. -/
def limit (script : Script) : Duration := .ofSecs (script.limitSecs.getD 600)

/-- The command of a run with the given data. -/
def effectiveCommand (script : Script) (data : Option Data) : String :=
  ((data.bind (Data.field? "full_command")).bind Data.asText?).getD script.command

/-- What a run adds to the script log. -/
def logEntry (script : Script) (number : Nat) (command output : String) : String :=
  "Plugin: " ++ script.manifest.name.getD "" ++ "#" ++ toString number ++ "\nCommand: " ++
    command ++ "\nOutput:\n" ++ output ++ "\n"

/-- The complaint about a command. -/
def complaint (command reason : String) : String := "Error executing " ++ command ++ ": " ++ reason

/-- Runs a command, with its effects on the files. -/
def execute (runner : CommandRunner) (command : String) (limit : Duration) : Task σ Completion := do
  let job ← Task.job
  let (completion, files) := runner command job.assignment.logDir limit job.host.files
  Task.onHost ({ · with files })
  return completion

/-- Writes behind the script log. -/
def writeLog (entry : String) : Task σ Unit := do
  let directory := (← Task.job).assignment.logDir
  Task.onFiles (·.append (joinPath directory "script.log") (encodeUtf8 entry.toList))

/-- Runs the script. -/
def run (runner : CommandRunner) (script : Script) : Task σ Unit := do
  let command := script.effectiveCommand (← Task.job).pluginData?
  if isBlankString command then Task.failWith "No command provided."
  Task.log .info ("Executing script with command '" ++ command ++ "'")
  let directory := (← Task.job).assignment.logDir
  Task.onFiles (·.makeDirectories directory)
  match ← execute runner command script.limit with
  | .failed error => Task.failWith (complaint command error.message)
  | .timedOut =>
    Task.failWith (complaint command ("timed out after " ++ toString script.limit.secs ++ "s"))
  | .finished output status =>
    writeLog (script.logEntry (← Task.job).number command output)
    if !status.success then
      Task.failWith (complaint command ("exit code " ++ status.shown))
    Task.log .info "Execution completed."

/-- The plugin of a script; it needs no connection. -/
def plugin (runner : CommandRunner) (script : Script) : Plugin σ where
  manifest := script.manifest
  needsConnection := false
  task := script.run runner

/-- The registry entries of the scripts that a file declares. -/
def entries (runner : CommandRunner) (path : String) (scripts : List Script) : Registry σ :=
  scripts.zipIdx.map fun (script, index) =>
    ⟨"devpipe.script." ++ path ++ "#" ++ toString index, script.plugin runner⟩

end Script

end Upkeep
