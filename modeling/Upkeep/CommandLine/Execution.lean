import Upkeep.CommandLine.Basic
import Upkeep.CommandLine.Failure
import Upkeep.Plugin.Builtin
import Upkeep.Session.Piped

/-!
# Execution — what the program does

`CommandLine.execute` carries out a command line on a file tree. What a run needs from outside is
in `Surroundings`: how client programs are started, how commands are run, and a name for the run.
The program prints what it was asked for, and complains only if it fails.
-/

namespace Upkeep

/-- What the program needs from outside. -/
structure Surroundings (τ : Type) where
  launch : Launcher τ
  runner : CommandRunner
  /-- A name that no other run has. -/
  runName : String
  /-- When the program starts. -/
  epoch : Instant := ⟨.zero⟩

/-- What the program comes to. -/
structure Ending where
  exitCode : Nat
  output : String := ""
  complaint : String := ""
  files : Files

/-- A part of the program: it changes files and may fail. -/
abbrev ProgramM := ExceptT Failure (StateM Files)

namespace ProgramM

/-- Fails with the failure that is made of an error. -/
def orFail {ε α : Type} (failure : ε → Failure) : Except ε α → ProgramM α
  | .ok a => pure a
  | .error e => throw (failure e)

/-- Changes the files. -/
def onFiles (context : Failure → Failure) (f : Files → Except IoError Files) : ProgramM Unit := do
  set (← orFail (context ∘ Failure.ofIo) (f (← get)))

end ProgramM

namespace CommandLine

open ProgramM

variable {τ : Type} [Transport τ]

/-- The built-in plugins and those of a script file. -/
def registry (surroundings : Surroundings τ) (scripts : Option String) :
    ProgramM (Registry (Piped τ)) := do
  match scripts with
  | none => return .builtin
  | some path =>
    let scripts ← orFail Failure.ofScripts (Script.load (← get) path)
    return .builtin ++ Script.entries surroundings.runner path scripts

/-- Lists plugins. -/
def executeList (surroundings : Surroundings τ) (scripts : Option String)
    (arguments : ListArguments) : ProgramM String := do
  let registry ← registry surroundings scripts
  let job : Job (Piped τ) :=
    { assignment := { hostname := "", logDir := "" }, session := none, host := { files := ← get } }
  return (Catalog.build registry arguments.criteria job).1.listing arguments.style

/-- Checks a job file. -/
def executeValidate (path : String) : ProgramM String := do
  let failure (error : SettingsError) : Failure :=
    (Failure.ofSettings error).context ("invalid job " ++ quotedPath path)
  let settings ← orFail failure (JobSettings.loadChecked (← get) path)
  return "Job '" ++ settings.hostname.getD "<unnamed>" ++ "' validated\n"

/-- The settings of a run: those of its job file under its arguments. -/
def settings (scripts : Option String) (arguments : RunArguments) : ProgramM JobSettings := do
  let base ← match arguments.job with
    | none => pure {}
    | some path => orFail Failure.ofSettings (JobSettings.load (← get) path)
  let settings := arguments.over base
  let settings := { settings with scripts := scripts <|> settings.scripts }
  orFail (Failure.context "invalid job" ∘ Failure.ofSettings) settings.check
  return settings

/-- The session of a run over a client program. -/
def session (surroundings : Surroundings τ) (settings : JobSettings) (invocation : Invocation) :
    Piped τ where
  invocation
  launch := surroundings.launch
  logPath := some (joinPath settings.logDirectory "session.log")

/-- What a finished run shows: the plugins that were executed, and the lines kept with the job. -/
def runReport (executed : List String) (job : Job (Piped τ)) : String :=
  String.join ((executed.map ("Executed: " ++ ·) ++ job.host.board.jobInfo).map (· ++ "\n"))

/-- Runs a job. -/
def executeRun (surroundings : Surroundings τ) (scripts : Option String)
    (arguments : RunArguments) : ProgramM String := do
  let settings ← settings scripts arguments
  let directory := settings.logDirectory
  onFiles (Failure.context ("failed to create " ++ quotedPath directory))
    (·.makeDirectories directory)
  let logPath := joinPath directory "plugins.log"
  onFiles (Failure.context ("failed to open " ++ quotedPath logPath)) (·.append logPath [])
  let registry ← registry surroundings settings.scripts
  let host : Host := { files := ← get, epoch := surroundings.epoch }
  let job ← orFail Failure.ofSettings (settings.job (session surroundings settings) host)
  let runDirectory := joinPath (joinPath directory "runs") surroundings.runName
  onFiles id (·.makeDirectories runDirectory)
  let files ← get
  let job := { job with assignment.runDir := some runDirectory, host.files := files }
  let (result, job) := Dispatch.runJob registry job
  set job.host.files
  let executed ← orFail (Failure.context "job failed" ∘ Failure.ofDispatch) result
  return runReport executed job

/-- Carries out a command line. -/
def execute (surroundings : Surroundings τ) (line : CommandLine) (files : Files) : Ending :=
  let program : ProgramM String := match line.request with
    | .list arguments => executeList surroundings line.scripts arguments
    | .validate path => executeValidate path
    | .run arguments => executeRun surroundings line.scripts arguments
  match program files with
  | (.ok output, files) => { exitCode := 0, output, files }
  | (.error failure, files) => { exitCode := 1, complaint := failure.render, files }

/-- Reads a command line and carries it out. What cannot be read changes nothing. -/
def run (surroundings : Surroundings τ) (words : List String) (files : Files) :
    Except UsageError Ending :=
  (read words).map (execute surroundings · files)

end CommandLine

end Upkeep
