import Upkeep.Convergence.Basic
import Upkeep.Dialogue.Basic
import Upkeep.Data.Json
import Upkeep.Data.Source
import Upkeep.Job.FileName

/-!
# Jobs — one piece of work on one device

A job has its settings, at most one session for the whole of it, a store in which plugins leave
values for later plugins, and an account of the plugins that ran. It is finalized once:
`Job.finalize` records the outcome, lets go of the session and writes the summary, and finalizing
again changes nothing.
-/

namespace Upkeep

/-- Why a plugin fails. -/
inductive PluginError where
  /-- A failure that the plugin has reported itself. -/
  | fatal (message : String)
  | dialogue (error : DialogueError)
  | convergence (error : ConvergenceError)
  | session (error : SessionError)
  | io (error : IoError)
  | data (error : DecodeError)
  deriving Repr

/-- The failure in words. -/
def PluginError.message : PluginError → String
  | .fatal message => message
  | .dialogue error => error.message
  | .convergence error => error.message
  | .session error => error.message
  | .io error => error.message
  | .data error => error.message

/-- What a job is asked to do. -/
structure Assignment where
  hostname : String
  phase : Option String := none
  platform : Option String := none
  os : Option String := none
  /-- The plugins to run, one after the other. -/
  order : Option (List String) := none
  /-- The names to which a job without an order is restricted. -/
  nameFilter : List String := []
  logDir : String
  /-- Where the summary goes. -/
  runDir : Option String := none
  packages : List String := []
  repositoryUrl : Option String := none
  commands : List String := []
  reload : ConvergenceCheck := {}
  /-- The waits that one dialogue may make. -/
  waits : Nat := 1000000
  deriving DecidableEq, Repr

/-- A value in the store, and when it was put there. -/
structure Stored where
  value : Data
  since : Instant

/-- The state of a job over a session of type `σ`. -/
structure Job (σ : Type) where
  assignment : Assignment
  session : Option σ
  host : Host
  /-- The data of the plugins, by their places in the sequence. -/
  data : List Data := []
  started : Instant := host.now
  /-- The plugin that runs. -/
  current : Option String := none
  /-- The place of the plugin that runs or is next, counted from 1. -/
  number : Nat := 1
  /-- The plugins that have completed. -/
  executed : List String := []
  store : List (String × Stored) := []
  /-- Whether the job succeeded, once it is finalized. -/
  outcome : Option Bool := none

namespace Job

variable {σ : Type}

/-- The job with its host changed. -/
def onHost (f : Host → Host) (job : Job σ) : Job σ := { job with host := f job.host }

/-- A message with the name of the plugin that runs before it. -/
def label (job : Job σ) (message : String) : String :=
  match job.current with
  | some plugin => "[" ++ plugin ++ "] " ++ message
  | none => message

/-- Records a message. -/
def log (level : Level) (message : String) (job : Job σ) : Job σ :=
  job.onHost (·.log level (job.label message))

/-- Keeps a warning with the job and records it. -/
def warn (message : String) (job : Job σ) : Job σ :=
  job.onHost fun host =>
    (host.saveJobInfo ("WARNING: " ++ job.label message)).log .warn (job.label message)

/-- Keeps an error with the job and records it. -/
def logError (message : String) (job : Job σ) : Job σ :=
  job.onHost fun host =>
    (host.saveJobInfo ("ERROR: " ++ job.label message)).log .error (job.label message)

/-- Shows a status line to the operator. -/
def postStatus (message : String) (job : Job σ) : Job σ := job.onHost (·.postStatus message)

/-- The data of the plugin that runs or is next. -/
def pluginData? (job : Job σ) : Option Data :=
  if job.number = 0 then none else job.data[job.number - 1]?

/-- Whether the job is over. -/
def isFinalized (job : Job σ) : Bool := job.outcome.isSome

/-- Whether the job is over and succeeded. -/
def succeeded (job : Job σ) : Bool := job.outcome = some true

/-- Puts a value into the store. -/
def save (key : String) (value : Data) (job : Job σ) : Job σ :=
  { job with store := Fields.insert key ⟨value, job.host.now⟩ job.store }.log .info
    ("Key '" ++ key ++ "' saved in job storage")

/-- A value of the store. -/
def load? (key : String) (job : Job σ) : Option Stored × Job σ :=
  match Fields.get? key job.store with
  | none => (none, job)
  | some stored => (some stored, job.log .info ("Key '" ++ key ++ "' loaded from job storage"))

/-- Writes a text into the log directory under a free name, and gives the file's path. -/
def saveFile (name text : String) (job : Job σ) : Except IoError String × Job σ :=
  let file := fileName name
  let path := joinPath job.assignment.logDir file
  match job.host.files.makeDirectories job.assignment.logDir with
  | .error e => (.error e, job)
  | .ok files =>
    let job := job.onHost ({ · with files })
    match files.write path (encodeUtf8 text.toList) with
    | .error e => (.error e, job)
    | .ok files =>
      (.ok path, (job.onHost ({ · with files })).log .info
        ("File '" ++ file ++ "' saved in log directory"))

/-- The summary of a job that is over. -/
def summary (job : Job σ) (succeeded : Bool) : Data :=
  .ofFields [
    ("hostname", .text job.assignment.hostname),
    ("phase", .textOrNull job.assignment.phase),
    ("platform", .textOrNull job.assignment.platform),
    ("os", .textOrNull job.assignment.os),
    ("success", .bool succeeded),
    ("executed", .texts job.executed),
    ("started", .text job.started.timestamp),
    ("finished", .text job.host.now.timestamp)]

/-- The job after a session call. -/
def after {α : Type} (job : Job σ) (session : σ) (outcome : Outcome σ α) : Job σ :=
  let link := (Link.mk session job.host).after outcome
  { job with session := some link.session, host := link.host }

/-- Disconnects the session if it is connected. -/
def release [Session σ] (job : Job σ) : Job σ :=
  match job.session with
  | none => job
  | some session =>
    if Session.isConnected session then
      let outcome := Session.disconnect session job.host.files
      let job := job.after session outcome
      match outcome.result with
      | .ok () => job
      | .error e =>
        job.onHost (·.log .warn ("disconnect failed during finalize: " ++ e.message))
    else job

/-- Writes the summary into the run directory, if there is one. -/
def writeSummary (succeeded : Bool) (job : Job σ) : Job σ :=
  match job.assignment.runDir with
  | none => job
  | some directory =>
    let content := Json.render (job.summary succeeded)
    match job.host.files.write (joinPath directory "job.json") (encodeUtf8 content.toList) with
    | .ok files => job.onHost ({ · with files })
    | .error e => job.onHost (·.log .warn ("failed to write job summary: " ++ e.message))

/-- Ends the job with its outcome, unless it is over. -/
def finalize [Session σ] (succeeded : Bool) (job : Job σ) : Job σ :=
  if job.isFinalized then job
  else
    let job := { job with outcome := some succeeded, current := none }
    let job := job.log .info "Plugin manager finished"
    job.release.writeSummary succeeded

end Job

end Upkeep
