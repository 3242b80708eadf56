import Upkeep.Plugin.Script
import Upkeep.Proofs.Host.Directories
import Upkeep.Proofs.Job.Told
import Mathlib.Data.List.Chain
import Mathlib.Data.List.Induction

/-! # The script log — what scripts have left behind

    All scripts that share a log directory write to one script log.  A command
    may be there or not, may come to its end or not, and may succeed or not; only
    a command that has come to its end is recorded, and this is done before its
    exit status is judged.

    One launch adds the record of its command to the log, which may be empty, and
    succeeds if the command does (`Launch.goes`).  So by induction over the
    launches the log is what it was at first, and behind that all records in the
    order of the launches (`log_is_history`). -/

namespace Upkeep.Script

variable {σ : Type}

/-! ## One run -/

/-- What a run does with what its command has come to. -/
def conclude (script : Script) (command : String) : Completion → Task σ Unit
  | .failed error => Task.failWith (complaint command error.message)
  | .timedOut =>
    Task.failWith (complaint command ("timed out after " ++ toString script.limit.secs ++ "s"))
  | .finished output status => do
    writeLog (script.logEntry (← Task.job).number command output)
    if !status.success then
      Task.failWith (complaint command ("exit code " ++ status.shown))
    Task.log .info "Execution completed."

/-- What the command of a run does in the log directory. -/
def executes (runner : CommandRunner) (script : Script) (job : Job σ) (files : Files) :
    Completion × Files :=
  runner (script.effectiveCommand job.pluginData?) job.assignment.logDir script.limit files

section Run

variable {runner : CommandRunner} {script : Script} {job : Job σ}

/-- A run is concluded with what its command comes to, if there is a command. -/
theorem run_eq (runner : CommandRunner) (script : Script) : (script.run runner : Task σ Unit) =
    (do
      let command := script.effectiveCommand (← Task.job).pluginData?
      if isBlankString command then Task.failWith "No command provided."
      Task.log .info ("Executing script with command '" ++ command ++ "'")
      let directory := (← Task.job).assignment.logDir
      Task.onFiles (·.makeDirectories directory)
      conclude script command (← execute runner command script.limit)) := rfl

/-- Without a command nothing is done. -/
theorem run_blank (h : isBlankString (script.effectiveCommand job.pluginData?) = true) :
    (script.run runner).comes job
      = (.error (.fatal "No command provided."), job.logError "No command provided.") := by
  rw [run_eq, Task.comes_bind, Task.comes_job]
  dsimp only
  rw [h]
  rfl

/-- The job that has told which command it runs. -/
def announced (script : Script) (job : Job σ) : Job σ :=
  job.log .info ("Executing script with command '" ++
    script.effectiveCommand job.pluginData? ++ "'")

/-- The job whose command has been run in a log directory that was made. -/
def executed (runner : CommandRunner) (script : Script) (job : Job σ) (made : Files) : Job σ :=
  (script.announced job).onHost ({ · with files := (executes runner script job made).2 })

/-- A command is run once the log directory is made, and then the run is concluded. -/
theorem run_executes (h : isBlankString (script.effectiveCommand job.pluginData?) = false)
    {made : Files} (hmade : job.host.files.makeDirectories job.assignment.logDir = .ok made) :
    (script.run runner).comes job = (script.conclude (script.effectiveCommand job.pluginData?)
      (executes runner script job made).1).comes (executed runner script job made) := by
  have hmakes : (Task.onFiles (·.makeDirectories (script.announced job).assignment.logDir)).comes
      (script.announced job) = (.ok (), _) := Task.comes_onFiles hmade
  rw [run_eq, Task.comes_bind, Task.comes_job]
  dsimp only
  rw [h]
  show (Task.log _ _ >>= fun _ => _ : Task σ Unit).comes job = _
  rw [Task.comes_bind]
  show (Task.job >>= fun _ => _ : Task σ Unit).comes (script.announced job) = _
  rw [Task.comes_bind, Task.comes_job]
  dsimp only
  rw [Task.comes_bind, hmakes]
  dsimp only
  rw [Task.comes_bind]
  rfl

/-- What a finished command has printed goes behind the script log, and then its exit status is
    judged. -/
theorem conclude_finished {command output : String} {status : ExitStatus} {written : Files}
    (h : job.host.files.append (joinPath job.assignment.logDir "script.log")
      (encodeUtf8 (script.logEntry job.number command output).toList) = .ok written) :
    ((script.conclude command (.finished output status)).comes job).2.host.files = written ∧
      (((script.conclude command (.finished output status)).comes job).1 = .ok () ↔
        status = .code 0) := by
  have hwrites : (writeLog (script.logEntry job.number command output)).comes job
      = (.ok (), job.onHost ({ · with files := written })) := by
    rw [writeLog, Task.comes_bind, Task.comes_job]
    exact Task.comes_onFiles h
  rw [conclude, Task.comes_bind, Task.comes_job]
  dsimp only
  rw [Task.comes_bind, hwrites]
  dsimp only
  by_cases hstatus : status = .code 0
  · rw [ExitStatus.success, decide_eq_true hstatus]
    exact ⟨rfl, iff_of_true rfl hstatus⟩
  · rw [ExitStatus.success, decide_eq_false hstatus]
    exact ⟨rfl, iff_of_false nofun hstatus⟩

/-- A command that has not finished is a failure, and that is all. -/
theorem conclude_unfinished {completion : Completion} (command : String)
    (h : ∀ output status, completion ≠ .finished output status) :
    ∃ message, (script.conclude command completion : Task σ Unit) = Task.failWith message := by
  cases completion with
  | failed error => exact ⟨_, rfl⟩
  | timedOut => exact ⟨_, rfl⟩
  | finished output status => exact absurd rfl (h output status)

end Run

/-! ## Launches -/

/-- A script that is run by a job whose script log is the file with some names: its log directory
    can be made, and if there is a command, it leaves the script log alone, and the script log can
    be written when it has finished. -/
structure Launch (σ : Type) (place : List String) where
  runner : CommandRunner
  script : Script
  job : Job σ
  made : Files
  makes : job.host.files.makeDirectories job.assignment.logDir = .ok made
  keeps : isBlankString (script.effectiveCommand job.pluginData?) = false →
    (executes runner script job made).2.held place = made.held place
  opens : isBlankString (script.effectiveCommand job.pluginData?) = false →
    ∀ output status, (executes runner script job made).1 = .finished output status →
      ∃ old executable, (executes runner script job made).2.openForWriting
        (joinPath job.assignment.logDir "script.log") = .ok (place, old, executable)

namespace Launch

variable {place : List String} (launch : Launch σ place)

def command : String := launch.script.effectiveCommand launch.job.pluginData?

/-- What the command does if it is run. -/
def ended : Completion × Files := executes launch.runner launch.script launch.job launch.made

/-- What the command comes to: nothing if it is blank, since it is not run then. -/
def completion? : Option Completion :=
  if isBlankString launch.command then none else some launch.ended.1

def result : Except PluginError Unit := ((launch.script.run launch.runner).comes launch.job).1

def left : Job σ := ((launch.script.run launch.runner).comes launch.job).2

/-- The script log as it is found. -/
def before : Bytes := launch.job.host.files.held place

/-- The script log as it is left. -/
def after : Bytes := launch.left.host.files.held place

/-- What is recorded of a command: one entry if it has finished, and else nothing. -/
def record : Bytes :=
  match launch.completion? with
  | some (.finished output _) =>
    encodeUtf8 (launch.script.logEntry launch.job.number launch.command output).toList
  | _ => []

variable {launch}

/-- When the command has ended, the script log is still as it was. -/
theorem held_ended (h : isBlankString launch.command = false) :
    launch.ended.2.held place = launch.before :=
  (launch.keeps h).trans ((Files.grown_makeDirectories launch.makes).held place)

/-- A command that has not finished leaves the script log as it was, and the run fails. -/
theorem goes_unfinished (h : isBlankString launch.command = false)
    (hunfinished : ∀ output status, launch.ended.1 ≠ .finished output status) :
    launch.after = launch.before ∧ launch.result ≠ .ok () := by
  obtain ⟨message, hfails⟩ := conclude_unfinished launch.command hunfinished
  have hrun : (launch.script.run launch.runner).comes launch.job
      = (launch.script.conclude launch.command launch.ended.1).comes _ :=
    run_executes h launch.makes
  rw [hfails] at hrun
  rw [after, left, result, hrun]
  exact ⟨held_ended h, nofun⟩

/-- What a command has printed that has finished goes behind the script log, and the run succeeds
    if the exit status is zero. -/
theorem goes_finished (h : isBlankString launch.command = false) {output : String}
    {status : ExitStatus} (hfinished : launch.ended.1 = .finished output status) :
    launch.after = launch.before ++
        encodeUtf8 (launch.script.logEntry launch.job.number launch.command output).toList ∧
      (launch.result = .ok () ↔ status = .code 0) := by
  obtain ⟨old, executable, hopen⟩ := launch.opens h output status hfinished
  obtain ⟨written, happend, hlog⟩ := Files.append_of_open hopen
    (encodeUtf8 (launch.script.logEntry launch.job.number launch.command output).toList)
  have hrun : (launch.script.run launch.runner).comes launch.job
      = (launch.script.conclude launch.command launch.ended.1).comes
        (executed launch.runner launch.script launch.job launch.made) :=
    run_executes h launch.makes
  rw [hfinished] at hrun
  obtain ⟨hleft, hok⟩ :
      ((launch.script.conclude launch.command (.finished output status)).comes
        (executed launch.runner launch.script launch.job launch.made)).2.host.files = written ∧ _ :=
    conclude_finished happend
  rw [after, left, result, hrun, ← held_ended h]
  exact ⟨(congrArg (Files.held · place) hleft).trans hlog, hok⟩

/-- What is to be known of a launch. -/
structure Verdict (launch : Launch σ place) : Prop where
  /-- The text `full_command` of the plugin's data is the command if there is one. -/
  given : ∀ text, launch.job.pluginData?.bind (Data.field? "full_command") = some (.text text) →
    launch.command = text
  /-- Otherwise it is the command that the script declares. -/
  declared : (∀ text,
    launch.job.pluginData?.bind (Data.field? "full_command") ≠ some (.text text)) →
    launch.command = launch.script.command
  /-- A command that has finished is recorded, whatever its exit status is. -/
  recorded : ∀ output status, launch.completion? = some (.finished output status) →
    launch.record = encodeUtf8 ("Plugin: " ++ launch.script.manifest.name.getD "" ++ "#" ++
      toString launch.job.number ++ "\nCommand: " ++ launch.command ++ "\nOutput:\n" ++ output ++
      "\n").toList
  /-- No other command is. -/
  unrecorded : (∀ output status, launch.completion? ≠ some (.finished output status)) →
    launch.record = []
  /-- The record goes behind the script log. -/
  added : launch.after = launch.before ++ launch.record
  /-- The run succeeds if the command has finished with the exit status zero. -/
  succeeds_iff : launch.result = .ok () ↔
    ∃ output, launch.completion? = some (.finished output (.code 0))

theorem command_given {text : String}
    (h : launch.job.pluginData?.bind (Data.field? "full_command") = some (.text text)) :
    launch.command = text := by
  rw [command, effectiveCommand, h]
  rfl

theorem command_declared (h : ∀ text,
    launch.job.pluginData?.bind (Data.field? "full_command") ≠ some (.text text)) :
    launch.command = launch.script.command := by
  rw [command, effectiveCommand]
  cases hfield : launch.job.pluginData?.bind (Data.field? "full_command") with
  | none => rfl
  | some value =>
      cases value with
      | text text => exact absurd hfield (h text)
      | _ => rfl

theorem record_finished {output : String} {status : ExitStatus}
    (h : launch.completion? = some (.finished output status)) : launch.record
      = encodeUtf8 (launch.script.logEntry launch.job.number launch.command output).toList := by
  rw [record, h]

theorem record_unfinished
    (h : ∀ output status, launch.completion? ≠ some (.finished output status)) :
    launch.record = [] := by
  rw [record]
  split
  · next output status hfinished => exact absurd hfinished (h output status)
  · rfl

/-- The record goes behind the script log, and the exit status tells whether the run succeeds. -/
theorem goes (launch : Launch σ place) : launch.after = launch.before ++ launch.record ∧
    (launch.result = .ok () ↔
      ∃ output, launch.completion? = some (.finished output (.code 0))) := by
  cases hblank : isBlankString launch.command with
  | true =>
      have hrun : (launch.script.run launch.runner).comes launch.job = _ := run_blank hblank
      have hnone : launch.completion? = none := if_pos hblank
      rw [record_unfinished (by rw [hnone]; exact fun _ _ => nofun), after, left, result, hrun,
        hnone]
      exact ⟨(List.append_nil _).symm, iff_of_false nofun nofun⟩
  | false =>
      have hsome : launch.completion? = some launch.ended.1 :=
        if_neg (Bool.eq_false_iff.mp hblank)
      by_cases hfinished : ∃ output status, launch.ended.1 = .finished output status
      · obtain ⟨output, status, hfinished⟩ := hfinished
        obtain ⟨hlog, hok⟩ := goes_finished hblank hfinished
        rw [hfinished] at hsome
        rw [record_finished hsome, hok, hsome]
        refine ⟨hlog, ?_, ?_⟩
        · rintro rfl
          exact ⟨output, rfl⟩
        · rintro ⟨other, hother⟩
          injection Option.some.inj hother
      · have hunfinished : ∀ output status, launch.ended.1 ≠ .finished output status :=
          fun output status h => hfinished ⟨output, status, h⟩
        obtain ⟨hlog, hfails⟩ := goes_unfinished hblank hunfinished
        have hother : ∀ output status, launch.completion? ≠ some (.finished output status) := by
          rw [hsome]
          exact fun output status h => hunfinished output status (Option.some.inj h)
        rw [record_unfinished hother, List.append_nil]
        exact ⟨hlog, iff_of_false hfails fun ⟨output, h⟩ => hother output _ h⟩

/-- **LAUNCH**: what is to be known of a launch holds of every one. -/
theorem verdict (launch : Launch σ place) : launch.Verdict where
  given _ := command_given
  declared := command_declared
  recorded _ _ := record_finished
  unrecorded := record_unfinished
  added := launch.goes.1
  succeeds_iff := launch.goes.2

end Launch

/-! ## Launches in a row -/

variable {place : List String}

/-- Launches in a row that begin with something in the script log, or with nothing, and between them
    anything that leaves the script log alone. -/
structure Shared (old : Bytes) (launches : List (Launch σ place)) : Prop where
  start : ∀ first ∈ launches.head?, first.before = old
  kept : launches.IsChain fun one next => next.before = one.after

/-- **LOG**: a launch finds in the script log what was in it at first, and the records of all
    launches before it. -/
theorem before_eq {old : Bytes} {earlier later : List (Launch σ place)} {launch : Launch σ place}
    (h : Shared old (earlier ++ launch :: later)) :
    launch.before = old ++ earlier.flatMap Launch.record := by
  induction earlier using List.reverseRecOn generalizing launch later with
  | nil => exact (h.start launch rfl).trans (List.append_nil old).symm
  | append_singleton earlier one ih =>
      rw [List.append_assoc] at h
      have hkept : launch.before = one.after := (List.isChain_append_cons_cons.mp h.kept).2.1
      rw [hkept, one.goes.1, ih h, List.flatMap_append, List.flatMap_singleton, List.append_assoc]

/-- **HISTORY**: behind each launch of a row the script log has what was in it at first, and the
    records of all launches so far in their order; a command is recorded if it has finished, and a
    run succeeds if its command has finished with the exit status zero. -/
theorem log_is_history (old : Bytes) (launches : List (Launch σ place)) (h : Shared old launches) :
    ∀ earlier launch later, launches = earlier ++ launch :: later →
      launch.after = old ++ (earlier ++ [launch]).flatMap Launch.record ∧ launch.Verdict := by
  rintro earlier launch later rfl
  refine ⟨?_, launch.verdict⟩
  rw [launch.goes.1, before_eq h, List.flatMap_append, List.flatMap_singleton, List.append_assoc]

/-- What a shell does with some commands: one of them sleeps for longer than anybody waits, and one
    with a null in it cannot be given to a shell. -/
def someShell : CommandRunner := fun command _ _ files =>
  (if command = "echo hello" then .finished "hello\n" (.code 0)
  else if command = "exit 3" then .finished "" (.code 3)
  else if command = "sleep 1000" then .timedOut
  else .failed .nullInCommand, files)

/-- A tree with a script log. -/
def logged (log : Bytes) : Files := ⟨"/work", [(["script.log"], .file log false)]⟩

/-- The script log of the tree can be written. -/
theorem open_logged (log : Bytes) : (logged log).openForWriting (joinPath "" "script.log")
    = .ok (["script.log"], log, false) := by
  have habsolute : "/work".toList.head? = some '/' := by decide
  have hbare : "/work".toList.getLast? ≠ some '/' := by decide
  have hname : Files.Name "script.log" :=
    ⟨by decide, by decide, by decide, by decide, by decide⟩
  have hhere : (logged log).Directory "" [] := ⟨Or.inl ⟨rfl, rfl⟩, rfl⟩
  obtain ⟨hpath, -⟩ := (Files.resolve_child ⟨habsolute, hbare⟩ hname).mpr ⟨[], hhere, by decide, rfl⟩
  exact Files.Leads.opens ⟨hpath, rfl⟩

/-- A script that says hello, if the data of the plugin does not say otherwise. -/
def greeting (data : Data) (log : Bytes) : Launch Unit ["script.log"] where
  runner := someShell
  script := { manifest := .named "Echo", command := "echo hello" }
  job := {
    assignment := { hostname := "pe1", logDir := "" }
    session := none
    host := { files := logged log }
    data := [.ofFields [("full_command", data)]] }
  made := logged log
  makes := rfl
  keeps _ := rfl
  opens _ _ _ _ := ⟨log, false, open_logged log⟩

/-- One such script after the other, each with its own data. -/
def greetings (log : Bytes) : List Data → List (Launch Unit ["script.log"])
  | [] => []
  | data :: more => greeting data log :: greetings (greeting data log).after more

theorem shared_greetings (log : Bytes) (row : List Data) : Shared log (greetings log row) := by
  induction row generalizing log with
  | nil => exact ⟨fun first h => absurd h (Option.not_mem_none first), .nil⟩
  | cons data more ih =>
      have hmore := ih (greeting data log).after
      refine ⟨?_, List.isChain_cons.mpr ⟨hmore.start, hmore.kept⟩⟩
      intro first hfirst
      obtain rfl := Option.some.inj hfirst
      rfl

/-- Data that is no text leaves the declared command as it is, and a command that fails is recorded
    like one that succeeds.  A blank command, one that goes on for too long and one that cannot be
    started leave nothing behind. -/
theorem greetings_recorded :
    let old := encodeUtf8 "old\n".toList
    let row := greetings old
      [.null, .text "exit 3", .text " ", .text "sleep 1000", .text "echo \x00"]
    Shared old row ∧
      row.map Launch.completion? = [some (.finished "hello\n" (.code 0)),
        some (.finished "" (.code 3)), none, some .timedOut, some (.failed .nullInCommand)] ∧
      (∀ first ∈ row.head?, first.result = .ok ()) ∧
      ∀ last ∈ row.getLast?, last.result ≠ .ok () ∧
        last.after = encodeUtf8 ("old\nPlugin: Echo#1\nCommand: echo hello\nOutput:\nhello\n\n" ++
          "Plugin: Echo#1\nCommand: exit 3\nOutput:\n\n").toList := by
  intro old row
  have hshared : Shared old row := shared_greetings old _
  have hcompletions : row.map Launch.completion? = [some (.finished "hello\n" (.code 0)),
      some (.finished "" (.code 3)), none, some .timedOut, some (.failed .nullInCommand)] := by
    decide +kernel
  refine ⟨hshared, hcompletions, ?_, ?_⟩
  · intro first hfirst
    obtain ⟨later, hrow⟩ := List.head?_eq_some_iff.mp hfirst
    obtain ⟨-, hverdict⟩ := log_is_history old row hshared [] first later hrow
    rw [hrow] at hcompletions
    exact hverdict.succeeds_iff.mpr ⟨"hello\n", (List.cons.inj hcompletions).1⟩
  · intro last hlast
    obtain ⟨earlier, hrow⟩ := List.getLast?_eq_some_iff.mp hlast
    obtain ⟨hlog, hverdict⟩ := log_is_history old row hshared earlier last [] hrow
    have hfailed : some last.completion? = some (some (.failed .nullInCommand)) := by
      rw [← Option.map_some, ← hlast, ← List.getLast?_map, hcompletions]
      rfl
    constructor
    · rw [Ne, hverdict.succeeds_iff, Option.some.inj hfailed]
      exact nofun
    · rw [hlog, ← hrow]
      decide +kernel

end Upkeep.Script
