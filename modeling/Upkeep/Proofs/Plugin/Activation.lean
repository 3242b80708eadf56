import Upkeep.Plugin.Activation
import Upkeep.Proofs.Convergence.Wait
import Upkeep.Proofs.Dialogue.Install
import Upkeep.Proofs.Job.Recorded
import Upkeep.Session.Perturbed
import Upkeep.Session.Replay

/-! # Activation — what an activation may send, and when it succeeds

    An activation is two dialogues and a wait, and any of them may fail at any
    point.  Each part has its say on its own piece of the record: `Saved` for the
    saving of the configuration, `Worked` for the reload or the upgrade, and
    `Returned` for the wait.  `Proceeds` puts the pieces in a row, and has one case
    for each part that may be the last.

    What is read off is of three kinds.  The lines are those of a script, as far
    as it goes (`Script`).  A reload or an upgrade is not started before the
    device has been heard to say that the configuration is saved.  And success
    means that all three parts have come to their ends. -/

namespace Upkeep.Activation

/-! ## Scripts -/

/-- The lines of saving, with a question or without it. -/
def savingLines (asked : Bool) : List String := "write memory" :: if asked then [""] else []

/-- The lines of the work itself: those of a reload, or the one command of an upgrade in service
    with the package that the settings name, or else the job's first one. -/
inductive Work (settings : Settings) (packages : List String) : List String → Prop where
  | reload (unsaved : Bool) : settings.mode = .reload →
      Work settings packages ("reload" :: Dialogue.reloadLines unsaved)
  | upgrade {package : String} : settings.mode = .inService →
      settings.package.or packages.head? = some package →
      Work settings packages [upgradeCommand package]

/-- The lines of an activation in which nothing fails, but for the lack of a package. -/
inductive Script (settings : Settings) (assignment : Assignment) : List String → Prop where
  | whole (asked : Bool) {work : List String} {polls : Nat} :
      Work settings assignment.packages work → polls ≤ assignment.reload.maxAttempts →
      Script settings assignment
        (savingLines asked ++ (work ++ List.replicate polls assignment.reload.statusCommand))
  | stranded (asked : Bool) : settings.mode = .inService →
      settings.package.or assignment.packages.head? = none →
      Script settings assignment (savingLines asked)

/-- The dialogue of a mode. -/
def Mode.dialogue : Mode → Dialogue
  | .reload => .reload
  | .inService => .inService

/-! ## The three parts -/

/-- What saving the configuration leaves on the record. -/
def Saved (prompt : Pattern) (calls : List Call) (result : Except PluginError Unit) : Prop :=
  ∃ asked, calls.filterMap Call.line? <+: savingLines asked ∧
    (result = .ok () → calls.filterMap Call.line? = savingLines asked ∧
      [Dialogue.savedEvent, prompt.text] <:+ calls.filterMap Call.event? ∧
      Dialogue.Ended (.writeMemory prompt) calls)

/-- What the work leaves on the record: nothing if a package is wanted and there is none. -/
def Worked (settings : Settings) (packages : List String) (calls : List Call)
    (result : Except PluginError Unit) : Prop :=
  (∃ work, Work settings packages work ∧ calls.filterMap Call.line? <+: work ∧
    (result = .ok () → calls.filterMap Call.line? = work ∧
      Dialogue.Ended settings.mode.dialogue calls)) ∨
  (settings.mode = .inService ∧ settings.package.or packages.head? = none ∧ calls = [] ∧
    result ≠ .ok ())

/-- What the wait leaves on the record. -/
def Returned (check : ConvergenceCheck) (calls : List Call) (result : Except PluginError Unit) :
    Prop :=
  ∃ polls, polls ≤ check.maxAttempts ∧
    calls.filterMap Call.line? = List.replicate polls check.statusCommand ∧
    (result = .ok () → Convergence.Confirms check .platform calls)

/-- What an activation leaves on the record: the parts up to the first that fails. -/
inductive Proceeds (settings : Settings) (assignment : Assignment) (prompt : Pattern) :
    List Call → Except PluginError Unit → Prop where
  | unsaved {saving : List Call} {error : PluginError} : Saved prompt saving (.error error) →
      Proceeds settings assignment prompt saving (.error error)
  | undone {saving working : List Call} {error : PluginError} : Saved prompt saving (.ok ()) →
      Worked settings assignment.packages working (.error error) →
      Proceeds settings assignment prompt (saving ++ working) (.error error)
  | waited {saving working waiting : List Call} {result : Except PluginError Unit} :
      Saved prompt saving (.ok ()) → Worked settings assignment.packages working (.ok ()) →
      Returned assignment.reload waiting result →
      Proceeds settings assignment prompt (saving ++ (working ++ waiting)) result

/-! ## From the program to its parts -/

variable {σ : Type} [Session σ]

/-- The work in the mode of the settings. -/
def work (settings : Settings) : Task σ Unit :=
  match settings.mode with
  | .reload => reload
  | .inService => upgrade settings

/-- An activation that knows its settings and the prompt. -/
def proceed (settings : Settings) (prompt : Pattern) : Task σ Unit := do
  Task.converse (.writeMemory prompt) "write memory"
  work settings
  awaitDevice
  Task.log .info "Operation reload finished successfully"

/-- What the plugin's data say; without data they say nothing. -/
def settings? (job : Job σ) : Data.Decoded Settings :=
  match job.pluginData? with
  | some value => Settings.ofData value
  | none => .ok {}

/-- Looking at the prompt leaves the job alone. -/
theorem prompt_comes (job : Job σ) :
    (Task.overSession PluginError.session (do return Session.prompt (← get).session) :
        Task σ Pattern).comes job = match job.session with
      | none => (.error (.session .notConnected), job)
      | some session => (.ok (Session.prompt session), job) := by
  obtain ⟨_, session, _, _, _, _, _, _, _, _⟩ := job
  cases session with
  | none => rfl
  | some session => rfl

/-- The work and what is behind it, by the mode. -/
theorem proceed_eq (settings : Settings) (prompt : Pattern) :
    proceed (σ := σ) settings prompt = (do
      Task.converse (.writeMemory prompt) "write memory"
      match settings.mode with
      | .reload => reload
      | .inService => upgrade settings
      awaitDevice
      Task.log .info "Operation reload finished successfully") := by
  rw [proceed, work]
  cases settings.mode with
  | reload => rfl
  | inService => rfl

/-- An activation reads its settings and the prompt, and proceeds. -/
theorem activate_comes (job : Job σ) :
    activate.comes job = match settings? job with
      | .error error => (.error (.data error), job)
      | .ok settings =>
        match job.session with
        | none => (.error (.session .notConnected), job)
        | some session => (proceed settings (Session.prompt session)).comes job := by
  have hlook : (Task.job : Task σ (Job σ)).comes job = (.ok job, job) := rfl
  have hrest (settings : Settings) :
      (do
        let prompt ← Task.overSession PluginError.session
          (do return Session.prompt (← get).session)
        Task.converse (.writeMemory prompt) "write memory"
        match settings.mode with
        | .reload => reload
        | .inService => upgrade settings
        awaitDevice
        Task.log .info "Operation reload finished successfully" : Task σ Unit).comes job
      = match job.session with
        | none => (.error (.session .notConnected), job)
        | some session => (proceed settings (Session.prompt session)).comes job := by
    rw [Task.comes_bind, prompt_comes]
    cases job.session with
    | none => rfl
    | some session =>
        exact congrArg (Task.comes · job) (proceed_eq settings (Session.prompt session)).symm
  rw [activate, Task.comes_bind, hlook, settings?]
  dsimp only
  cases job.pluginData? with
  | none =>
      rw [Task.comes_bind]
      exact hrest {}
  | some value =>
      dsimp only
      rw [Task.comes_bind]
      cases Settings.ofData value with
      | error error => rfl
      | ok settings => exact hrest settings

/-! ## Recording -/

theorem converse_erases (dialogue : Dialogue) (command : String) :
    Task.Erases (σ := σ) (Task.converse dialogue command) (Task.converse dialogue command) :=
  .job fun _ => .overSession _ (dialogue.run_erases _ command)

theorem upgrade_erases (settings : Settings) :
    Task.Erases (σ := σ) (upgrade settings) (upgrade settings) := by
  refine .job fun job => ?_
  dsimp only
  rw [show job.erased.assignment = job.assignment from rfl]
  cases settings.package.or job.assignment.packages.head? with
  | none => exact .failWith _
  | some package =>
      exact .bind (.postStatus _) fun _ => .bind (converse_erases _ _) fun _ => .onHost _

theorem work_erases (settings : Settings) :
    Task.Erases (σ := σ) (work settings) (work settings) := by
  rw [work, work]
  cases settings.mode with
  | reload =>
      exact .bind (.log _ _) fun _ => .bind (.postStatus _) fun _ => converse_erases _ _
  | inService => exact upgrade_erases settings

theorem awaitDevice_erases : Task.Erases (σ := σ) awaitDevice awaitDevice := by
  refine .job fun job => .bind (.attempt (.overSession _ (Convergence.await_erases _ _))) ?_
  intro answer
  cases answer with
  | ok report => exact .pure ()
  | error error => exact .bind (.warn _) fun _ => .fail error

/-- **RECORDING**: a recorded activation is the activation. -/
theorem activate_erases : Task.Erases (σ := σ) activate activate := by
  have hproceed (settings : Settings) (prompt : Pattern) :
      Task.Erases (σ := σ) (proceed settings prompt) (proceed settings prompt) :=
    .bind (converse_erases _ _) fun _ => .bind (work_erases settings) fun _ =>
      .bind awaitDevice_erases fun _ => .log _ _
  intro job
  rw [activate_comes, activate_comes, show settings? job.erased = settings? job from rfl]
  cases settings? job with
  | error error => rfl
  | ok settings =>
      have hsession : job.erased.session = job.session.map Recorded.session := rfl
      dsimp only
      rw [hsession]
      cases job.session with
      | none => rfl
      | some session => exact hproceed settings _ job

/-! ## What the parts leave on the record -/

section Parts

variable {assignment : Assignment} (inRange : ∀ patterns, Session.InRange σ patterns)
include inRange

theorem converse_emits (dialogue : Dialogue) (command : String) :
    Task.Emits assignment (Task.converse (σ := Recorded σ) dialogue command)
      (fun calls result => ∃ answer fired state, result = answer.mapError PluginError.dialogue ∧
        dialogue.Walked command fired state calls answer) := by
  refine Task.Emits.job fun job _ =>
    (Task.Emits.overSession _ (dialogue.run_walks (inRange _) _ command)).weaken ?_
  rintro calls result ⟨answer, rfl, fired, state, hwalked⟩
  exact ⟨answer, fired, state, rfl, hwalked⟩

/-- Saving the configuration. -/
theorem saving_emits (prompt : Pattern) :
    Task.Emits assignment
      (Task.converse (σ := Recorded σ) (.writeMemory prompt) "write memory") (Saved prompt) := by
  refine (converse_emits inRange _ _).weaken ?_
  rintro calls result ⟨answer, fired, state, rfl, hwalked⟩
  obtain ⟨hqueued, hevents⟩ := Dialogue.writeMemory_path hwalked.path
  obtain ⟨asked, hasked⟩ : ∃ asked,
      "write memory" :: fired.flatMap (Fired.lines (.writeMemory prompt))
        = savingLines asked := by
    rcases hqueued with hnone | hone
    · exact ⟨false, by rw [hnone]; rfl⟩
    · exact ⟨true, by rw [hone]; rfl⟩
  refine ⟨asked, by rw [← hasked]; exact hwalked.lines, fun hok => ?_⟩
  obtain ⟨rfl, hlines, hfound⟩ := hwalked.arrived (Action.mapError_eq_ok_iff.mp hok)
  exact ⟨by rw [hlines, hasked], by rw [hfound]; exact hevents rfl, fired, hwalked.path, hfound⟩

/-- The reload. -/
theorem reload_emits (settings : Settings) (mode : settings.mode = .reload) :
    Task.Emits assignment (reload (σ := Recorded σ))
      (Worked settings assignment.packages) := by
  refine .behind (fun _ => rfl) (fun _ => rfl) (fun _ => rfl)
    (.behind (fun _ => rfl) (fun _ => rfl) (fun _ => rfl) ?_)
  refine (converse_emits inRange _ _).weaken ?_
  rintro calls result ⟨answer, fired, state, rfl, hwalked⟩
  obtain ⟨unsaved, hlines, hall⟩ := Dialogue.reload_path hwalked.path
  refine Or.inl ⟨_, .reload unsaved mode, ?_, fun hok => ?_⟩
  · exact hwalked.lines.trans ((List.prefix_cons_inj _).mpr hlines)
  · obtain ⟨rfl, hlines, hfound⟩ := hwalked.arrived (Action.mapError_eq_ok_iff.mp hok)
    rw [mode]
    exact ⟨by rw [hlines, hall rfl], fired, hwalked.path, hfound⟩

/-- The upgrade in service, if there is a package for it. -/
theorem upgrade_emits (settings : Settings) (mode : settings.mode = .inService) :
    Task.Emits assignment (upgrade (σ := Recorded σ) settings)
      (Worked settings assignment.packages) := by
  refine .job fun job hassignment => ?_
  dsimp only
  rw [hassignment]
  cases hpackage : settings.package.or assignment.packages.head? with
  | none => exact .failWith (Or.inr ⟨mode, hpackage, rfl, fun h => nomatch h⟩)
  | some package =>
      refine .behind (fun _ => rfl) (fun _ => rfl) (fun _ => rfl) ?_
      have hdialogue : Task.Emits assignment
          (Task.converse (σ := Recorded σ) .inService (upgradeCommand package))
          (Worked settings assignment.packages) := by
        refine (converse_emits inRange _ _).weaken ?_
        rintro calls result ⟨answer, fired, state, rfl, hwalked⟩
        have hlines := hwalked.lines
        rw [Dialogue.inService_path hwalked.path] at hlines
        refine Or.inl ⟨_, .upgrade mode hpackage, hlines, fun hok => ?_⟩
        obtain ⟨rfl, hall, hfound⟩ := hwalked.arrived (Action.mapError_eq_ok_iff.mp hok)
        rw [Dialogue.inService_path hwalked.path] at hall
        rw [mode]
        exact ⟨hall, fired, hwalked.path, hfound⟩
      -- the pause behind a dialogue that succeeds is not seen on the record
      refine Task.Emits.bind hdialogue (fun _ _ hworked => hworked) ?_
      rintro calls ⟨⟩ hworked
      refine Task.Emits.silent (fun _ => rfl) (fun _ => rfl) fun job => ?_
      rw [List.append_nil]
      exact hworked

/-- The work in either mode. -/
theorem work_emits (settings : Settings) :
    Task.Emits assignment (work (σ := Recorded σ) settings)
      (Worked settings assignment.packages) := by
  rw [work]
  cases hmode : settings.mode with
  | reload => exact reload_emits inRange settings hmode
  | inService => exact upgrade_emits inRange settings hmode

omit inRange in
/-- The wait. -/
theorem awaitDevice_emits :
    Task.Emits assignment (awaitDevice (σ := Recorded σ)) (Returned assignment.reload) := by
  refine .job fun job hassignment => ?_
  dsimp only
  rw [hassignment]
  refine Task.Emits.bind (.attempt (.overSession _ (Convergence.await_emits _ _))) ?_ ?_
  · rintro calls error ⟨answer, hresult, -⟩
    exact nomatch hresult
  · rintro calls answer ⟨_, hanswer, report, rfl, polls, hle, hlines, hconfirms⟩
    obtain rfl := Except.ok.inj hanswer
    cases report with
    | ok report =>
        refine Task.Emits.pure ⟨polls, hle, ?_, fun _ => ?_⟩
        · rwa [List.append_nil]
        · rw [List.append_nil]
          exact hconfirms report rfl
    | error error =>
        refine .behind (fun _ => rfl) (fun _ => rfl) (fun _ => rfl) (Task.Emits.fail ?_)
        refine ⟨polls, hle, ?_, fun h => nomatch h⟩
        rwa [List.append_nil]

/-- **PARTS**: what an activation leaves on the record are its parts, up to the first that
    fails. -/
theorem proceed_emits (settings : Settings) (prompt : Pattern) :
    Task.Emits assignment (proceed (σ := Recorded σ) settings prompt)
      (Proceeds settings assignment prompt) := by
  refine Task.Emits.bind (saving_emits inRange prompt) (fun _ _ => .unsaved) ?_
  rintro saving ⟨⟩ hsaved
  refine Task.Emits.bind (work_emits inRange settings) (fun _ _ => .undone hsaved) ?_
  rintro working ⟨⟩ hworked
  refine Task.Emits.bind awaitDevice_emits (fun _ _ => .waited hsaved hworked) ?_
  rintro waiting ⟨⟩ hreturned
  refine Task.Emits.silent (fun _ => rfl) (fun _ => rfl) fun job => ?_
  rw [List.append_nil]
  exact .waited hsaved hworked hreturned

end Parts

/-! ## What is read off -/

/-- The device has been heard to say that the configuration is saved, and the next event was the
    prompt. -/
def Recognised (prompt : Pattern) (calls : List Call) : Prop :=
  [Dialogue.savedEvent, prompt.text] <:+: calls.filterMap Call.event?

/-- The line starts a reload or an upgrade. -/
def Starts (line : String) : Prop := line = "reload" ∨ ∃ package, line = upgradeCommand package

/-- The output of a status command shows nodes, and all of them are accepted. -/
def AllUp (output : Text) : Prop :=
  Inventory.ofTable output ≠ [] ∧ ∀ entry ∈ Inventory.ofTable output, entry.2.isAccepted = true

/-- What an activation has done, told by the calls on the record. -/
structure Activated (settings : Settings) (assignment : Assignment) (prompt : Pattern)
    (calls : List Call) (result : Except PluginError Unit) : Prop where
  /-- The lines are those of a script, as far as it goes. -/
  script : ∃ lines, Script settings assignment lines ∧ calls.filterMap Call.line? <+: lines
  /-- Without a package that is wanted, nothing is sent behind the saving. -/
  stranded : settings.mode = .inService → settings.package.or assignment.packages.head? = none →
    ∃ asked, calls.filterMap Call.line? <+: savingLines asked
  /-- Nothing is started before the configuration is known to be saved. -/
  guarded : ∀ before line answer behind, calls = before ++ .send line answer :: behind →
    Starts line → Recognised prompt before
  /-- An activation that succeeds has followed both dialogues to their ends. -/
  ended : result = .ok () → ∃ saving working waiting, calls = saving ++ (working ++ waiting) ∧
    Dialogue.Ended (.writeMemory prompt) saving ∧ Dialogue.Ended settings.mode.dialogue working
  /-- And its last call has found a status with all nodes up. -/
  up : result = .ok () → ∃ pattern found,
    calls.getLast? = some (.expect [pattern] assignment.reload.commandLimit (.ok found)) ∧
      AllUp (stripEcho assignment.reload.statusCommand.toList found.before)

/-- An inventory that is converged has nodes, and all of them are accepted. -/
theorem allUp_of_converged {output : Text}
    (h : Inventory.converged Node.isAccepted (Inventory.ofTable output) = true) :
    AllUp output := by
  rw [Inventory.converged, Bool.and_eq_true, List.all_eq_true] at h
  refine ⟨fun hnone => ?_, h.2⟩
  rw [hnone] at h
  exact nomatch h.1

/-- Whatever the settings, there is a script, and it starts with saving. -/
theorem exists_script (settings : Settings) (assignment : Assignment) (asked : Bool) :
    ∃ more, Script settings assignment (savingLines asked ++ more) := by
  cases hmode : settings.mode with
  | reload => exact ⟨_, .whole asked (.reload false hmode) (Nat.zero_le _)⟩
  | inService =>
      cases hpackage : settings.package.or assignment.packages.head? with
      | some package => exact ⟨_, .whole asked (.upgrade hmode hpackage) (Nat.zero_le _)⟩
      | none =>
          refine ⟨[], ?_⟩
          rw [List.append_nil]
          exact .stranded asked hmode hpackage

/-- **SCRIPT**: the parts of an activation write the lines of a script, as far as it goes. -/
theorem Proceeds.script {settings : Settings} {assignment : Assignment} {prompt : Pattern}
    {calls : List Call} {result : Except PluginError Unit}
    (h : Proceeds settings assignment prompt calls result) :
    ∃ lines, Script settings assignment lines ∧ calls.filterMap Call.line? <+: lines := by
  cases h with
  | unsaved hsaved =>
      obtain ⟨asked, hlines, -⟩ := hsaved
      obtain ⟨more, hscript⟩ := exists_script settings assignment asked
      exact ⟨_, hscript, hlines.trans (List.prefix_append _ _)⟩
  | undone hsaved hworked =>
      obtain ⟨asked, -, hall⟩ := hsaved
      rw [List.filterMap_append, (hall rfl).1]
      rcases hworked with ⟨work, hwork, hlines, -⟩ | ⟨hmode, hnone, rfl, -⟩
      · refine ⟨_, .whole asked hwork (Nat.zero_le _), ?_⟩
        exact (List.prefix_append_right_inj _).mpr (hlines.trans (List.prefix_append _ _))
      · refine ⟨_, .stranded asked hmode hnone, [], ?_⟩
        rw [List.filterMap_nil, List.append_nil, List.append_nil]
  | waited hsaved hworked hreturned =>
      obtain ⟨asked, -, hall⟩ := hsaved
      obtain ⟨polls, hle, hlines, -⟩ := hreturned
      rcases hworked with ⟨work, hwork, -, hdone⟩ | ⟨-, -, -, hfailed⟩
      · refine ⟨_, .whole asked hwork hle, [], ?_⟩
        rw [List.filterMap_append, List.filterMap_append, (hall rfl).1, (hdone rfl).1, hlines,
          List.append_nil]
      · exact absurd rfl hfailed

/-- The command of an upgrade is a long one. -/
theorem upgradeCommand_long (package : String) : 12 < (upgradeCommand package).length := by
  have hcommand :
      12 < "request platform software package install node file bootflash:".length := by decide
  unfold upgradeCommand
  rw [String.length_append]
  omega

/-- The lines of saving start nothing. -/
theorem not_starts_of_saving {asked : Bool} {line : String} (h : line ∈ savingLines asked) :
    ¬ Starts line := by
  have hline : line = "write memory" ∨ line = "" := by
    cases asked with
    | false => exact Or.inl (List.mem_singleton.mp h)
    | true => simpa [savingLines] using h
  rintro (rfl | ⟨package, rfl⟩)
  · exact absurd hline (by decide)
  · have hlong := upgradeCommand_long package
    rcases hline with hline | hline
    · rw [hline] at hlong
      exact absurd hlong (by decide)
    · rw [hline] at hlong
      exact absurd hlong (by decide)

/-- **GUARD**: nothing is started while the configuration is saved, and what is started later is
    behind the prompt that follows the `[OK]`. -/
theorem recognised_of_starts {prompt : Pattern} {saving rest before behind : List Call}
    {line : String} {answer : Except SessionError Unit} {result : Except PluginError Unit}
    (saved : Saved prompt saving result)
    (split : saving ++ rest = before ++ .send line answer :: behind)
    (starts : Starts line) (later : rest ≠ [] → result = .ok ()) : Recognised prompt before := by
  obtain ⟨asked, hlines, hall⟩ := saved
  have hnot : Call.send line answer ∉ saving := fun hmem =>
    not_starts_of_saving (hlines.subset (List.mem_filterMap.mpr ⟨_, hmem, rfl⟩)) starts
  rcases List.append_eq_append_iff.mp split with ⟨piece, rfl, hrest⟩ | ⟨piece, rfl, hsend⟩
  · have hok : result = .ok () :=
      later (by rw [hrest]; exact List.append_ne_nil_of_right_ne_nil _ (List.cons_ne_nil _ _))
    rw [Recognised, List.filterMap_append]
    exact (hall hok).2.1.isInfix.trans (List.prefix_append _ _).isInfix
  · cases piece with
    | nil =>
        have hok : result = .ok () :=
          later (by rintro rfl; exact nomatch hsend)
        rw [List.append_nil] at hall
        exact (hall hok).2.1.isInfix
    | cons call rest =>
        obtain ⟨rfl, -⟩ := List.cons.inj hsend
        exact absurd (List.mem_append_right before List.mem_cons_self) hnot

/-- **READING OFF**: what the parts of an activation say together. -/
theorem Proceeds.activated {settings : Settings} {assignment : Assignment} {prompt : Pattern}
    {calls : List Call} {result : Except PluginError Unit}
    (h : Proceeds settings assignment prompt calls result) :
    Activated settings assignment prompt calls result := by
  refine ⟨h.script, ?_, ?_, ?_, ?_⟩
  · intro hmode hnone
    obtain ⟨lines, hscript, hlines⟩ := h.script
    cases hscript with
    | stranded asked => exact ⟨asked, hlines⟩
    | whole _ hwork =>
        -- there is no work to do without a package
        cases hwork with
        | reload _ hreload => exact nomatch hmode.symm.trans hreload
        | upgrade _ hpackage => exact nomatch hnone.symm.trans hpackage
  · intro before line answer behind hsplit hstarts
    cases h with
    | unsaved hsaved =>
        have hsplit' : calls ++ [] = before ++ .send line answer :: behind := by
          rwa [List.append_nil]
        exact recognised_of_starts hsaved hsplit' hstarts (fun hnil => absurd rfl hnil)
    | undone hsaved _ => exact recognised_of_starts hsaved hsplit hstarts (fun _ => rfl)
    | waited hsaved _ _ => exact recognised_of_starts hsaved hsplit hstarts (fun _ => rfl)
  · rintro rfl
    cases h with
    | waited hsaved hworked hreturned =>
        obtain ⟨asked, -, hall⟩ := hsaved
        rcases hworked with ⟨work, -, -, hdone⟩ | ⟨-, -, -, hfailed⟩
        · exact ⟨_, _, _, rfl, (hall rfl).2.2, (hdone rfl).2⟩
        · exact absurd rfl hfailed
  · rintro rfl
    cases h with
    | waited _ _ hreturned =>
        obtain ⟨polls, -, -, hconfirms⟩ := hreturned
        obtain ⟨pattern, found, hlast, hconverged⟩ :=
          ((hconfirms rfl).behind _).behind _
        exact ⟨pattern, found, hlast, allUp_of_converged hconverged⟩

/-- What a run of the plugin leaves on the record: nothing if its data cannot be read or the job
    has no session, and else what an activation has done. -/
inductive Transcript (job : Job σ) : List Call → Except PluginError Unit → Prop where
  | unread {error : DecodeError} : settings? job = .error error →
      Transcript job [] (.error (.data error))
  | offline {settings : Settings} : settings? job = .ok settings → job.session = none →
      Transcript job [] (.error (.session .notConnected))
  | activated {settings : Settings} {session : σ} {calls : List Call}
      {result : Except PluginError Unit} :
      settings? job = .ok settings → job.session = some session →
      Activated settings job.assignment (Session.prompt session) calls result →
      Transcript job calls result

/-- **ON RECORD**: a recorded run of the plugin leaves a transcript. -/
theorem recording_transcript (job : Job σ) (inRange : ∀ patterns, Session.InRange σ patterns) :
    Transcript job (activate.comes job.recording).2.calls (activate.comes job.recording).1 := by
  rw [activate_comes, show settings? job.recording = settings? job from rfl]
  have hsession : job.recording.session = job.session.map fun session => ⟨session, []⟩ := rfl
  cases hsettings : settings? job with
  | error error =>
      rw [Job.calls_recording]
      exact .unread hsettings
  | ok settings =>
      cases hheld : job.session with
      | none =>
          rw [hheld] at hsession
          simp only [hsession, Option.map_none, Job.calls_recording]
          exact .offline hsettings hheld
      | some session =>
          rw [hheld] at hsession
          have hholds : job.recording.Holds job.assignment [] := ⟨rfl, _, hsession, rfl⟩
          obtain ⟨calls, hcalls, hproceeds⟩ :=
            proceed_emits inRange settings (Session.prompt session) job.recording [] hholds
          simp only [hsession, Option.map_some]
          rw [show Session.prompt (⟨session, []⟩ : Recorded σ) = Session.prompt session from rfl,
            hcalls.calls_eq, List.nil_append]
          exact .activated hsettings hheld hproceeds.activated

/-- **ACTIVATION**: whatever the device does, the plugin's data say and the job is like, a run of
    the plugin sends the lines of a script as far as it goes, starts nothing before the
    configuration is known to be saved, and succeeds only with all nodes up. What it has done is on
    the record of the same run over the recorded session. -/
theorem activate_transcript (job : Job σ) (inRange : ∀ patterns, Session.InRange σ patterns) :
    (activate job.recording).1 = (activate job).1 ∧
      (activate job.recording).2.val.erased = (activate job).2.val ∧
      Transcript job (activate job.recording).2.val.calls (activate job).1 := by
  have herases := activate_erases job.recording
  rw [Job.erased_recording] at herases
  obtain ⟨hresult, hjob⟩ := Prod.mk.inj herases
  refine ⟨hresult.symm, hjob.symm, ?_⟩
  rw [hresult]
  exact recording_transcript job inRange

/-- A device that saves, confirms its reload, and has one processor that is up. -/
def oneProcessor : Replay :=
  ((({ prompt := .ofText "#" } : Replay).reply "write memory" "[OK]\r\nrouter#".toList).reply
    "reload" "Proceed with reload? [confirm]".toList).reply
    "show platform" "Slot Type State\n---- ---- -----\nR0   RSP  ok\n#".toList

/-- A job for this device; the wait for the answer to the first poll fails. -/
def rebooting : Job (Perturbed Replay) where
  assignment := { hostname := "router", logDir := "log" }
  session := some { inner := oneProcessor, faults := [⟨.expect, 4, .timeout .zero []⟩] }
  host := { files := { root := "/" } }

/-- The device is saved, reloaded and polled twice, and then it is up. -/
theorem activate_rebooting :
    (∀ patterns, Session.InRange (Perturbed Replay) patterns) ∧
      (activate rebooting).1 = .ok () ∧
      Transcript rebooting (activate rebooting.recording).2.val.calls (.ok ()) ∧
      (activate rebooting.recording).2.val.calls.filterMap Call.line?
        = ["write memory", "reload", "", "show platform", "show platform"] := by
  have inRange (patterns : List Pattern) : Session.InRange (Perturbed Replay) patterns :=
    Perturbed.inRange (Replay.inRange patterns)
  have hresult : (activate rebooting).1 = .ok () :=
    Action.toOption_eq_some_iff.mp (by decide +kernel)
  have hlines : (activate rebooting.recording).2.val.calls.filterMap Call.line?
      = ["write memory", "reload", "", "show platform", "show platform"] := by decide +kernel
  obtain ⟨-, -, htranscript⟩ := activate_transcript rebooting inRange
  rw [hresult] at htranscript
  exact ⟨inRange, hresult, htranscript, hlines⟩

end Upkeep.Activation
