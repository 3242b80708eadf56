import Upkeep.Plugin.Builtin
import Upkeep.Plugin.Script
import Upkeep.Proofs.Job.Candid

/-! # Candor — the plugins that come with the program report their fatal failures

    Every way out of a built-in plugin, and of a script, is either a failure that
    it has reported itself or one that it leaves to the dispatcher to report.
    None is both, and none is neither (`Supplied.candid`).

    The bodies are gone through operation by operation.  What a dialogue or a
    wait for the device has to say on the way are status lines and warnings: an
    action of a dialogue can warn, but it cannot report an error. -/

namespace Upkeep

variable {σ : Type}

/-! ## Dialogues -/

/-- The effects of an action give every board the same notices, and none of an error. -/
theorem Effect.told (dialogue : String) (effects : List Effect) (host : Host) :
    ∃ notices, errors notices = [] ∧ ∀ board,
      effects.foldl (Effect.apply dialogue) (host.onBoard board)
        = (effects.foldl (Effect.apply dialogue) host).onBoard (board.takeAll notices) := by
  induction effects generalizing host with
  | nil => exact ⟨[], rfl, fun _ => rfl⟩
  | cons effect rest ih =>
      have heffect : ∃ notices, errors notices = [] ∧ ∀ board,
          Effect.apply dialogue (host.onBoard board) effect
            = (Effect.apply dialogue host effect).onBoard (board.takeAll notices) := by
        cases effect with
        | send line => exact ⟨[], rfl, fun _ => rfl⟩
        | post message => exact ⟨[.status message], rfl, fun _ => rfl⟩
        | warn message => exact ⟨[.line ("WARNING: " ++ message)], errors_warning _, fun _ => rfl⟩
        | note value => exact ⟨[], rfl, fun _ => rfl⟩
      obtain ⟨notices, hnone, htold⟩ := heffect
      obtain ⟨more, hmore, htold'⟩ := ih (Effect.apply dialogue host effect)
      refine ⟨notices ++ more, ?_, fun board => ?_⟩
      · rw [errors_append, hnone, hmore]
        rfl
      · rw [List.foldl_cons, List.foldl_cons, htold, Board.takeAll_append]
        exact htold' _

variable [Session σ]

namespace Dialogue

theorem sendLines_discreet (dialogue : Dialogue) (lines : List String) :
    Discreet (dialogue.sendLines (σ := σ) lines) := by
  induction lines with
  | nil => exact .pure ()
  | cons line rest ih => exact .bind (.mapError _ (.call _)) fun _ => ih

theorem act_discreet (dialogue : Dialogue) (transition : Transition) (state : Int)
    (found : Match) : Discreet (dialogue.act (σ := σ) transition state found) := by
  rw [act]
  cases transition.action with
  | none => exact .pure ()
  | some action =>
      refine .bind (.onHost (Effect.told _ _)) fun _ =>
        .bind (dialogue.sendLines_discreet _) fun _ => ?_
      cases (action ⟨dialogue.name, state, found.before, found.text⟩).accepts with
      | true => exact .pure ()
      | false => exact .throw _

theorem follow_discreet (dialogue : Dialogue) (waits : Nat) (state : Int) (limit : Duration) :
    Discreet (dialogue.follow (σ := σ) waits state limit) := by
  induction waits generalizing state limit with
  | zero => exact .throw _
  | succ waits ih =>
      refine .bind (.mapError _ (.call _)) fun found => ?_
      dsimp only
      split
      · exact .throw _
      · refine .bind (.log _ _) fun _ => .bind (dialogue.act_discreet _ _ _) fun _ => ?_
        split
        · exact .pure ()
        · exact ih _ _

theorem run_discreet (dialogue : Dialogue) (waits : Nat) (command : String) :
    Discreet (dialogue.run (σ := σ) waits command) :=
  .bind (.log _ _) fun _ => .bind (dialogue.sendLines_discreet _) fun _ =>
    dialogue.follow_discreet _ _ _

end Dialogue

/-! ## Waits for the device -/

namespace Convergence

omit [Session σ] in
theorem announce_discreet (message : String) : Discreet (announce (σ := σ) message) :=
  .onHost fun _ => ⟨[.status message], rfl, fun _ => rfl⟩

omit [Session σ] in
theorem sleep_discreet (time : Duration) :
    Discreet (Link.onHost (ε := ConvergenceError) (σ := σ) (·.sleep time)) :=
  .onHost fun _ => ⟨[], rfl, fun _ => rfl⟩

theorem restart_discreet (check : ConvergenceCheck) : Discreet (restart (σ := σ) check) :=
  .bind (.mapError _ (.call _)) fun _ => .bind (announce_discreet _) fun _ =>
    .bind (sleep_discreet _) fun _ => .bind (.mapError _ (.call _)) fun _ =>
      .bind (.log _ _) fun _ => .bind (announce_discreet _) fun _ => sleep_discreet _

theorem poll_discreet (check : ConvergenceCheck) (attempt : Nat) :
    Discreet (poll (σ := σ) check attempt) := by
  refine .bind (sleep_discreet _) fun _ => .bind (.attempt (.command _ _)) fun answer => ?_
  split
  · exact .bind (.log _ _) fun _ => .pure _
  · exact .bind (.log _ _) fun _ => .pure _
  · exact .throw _

theorem pollUntil_discreet (check : ConvergenceCheck) (probe : Probe) (left made : Nat)
    (waited : Duration) (last : Option Text) :
    Discreet (pollUntil (σ := σ) check probe left made waited last) := by
  induction left generalizing made waited last with
  | zero => exact .throw _
  | succ left ih =>
      rw [pollUntil]
      split
      · exact .throw _
      · refine .bind (poll_discreet check _) fun answer => ?_
        rcases answer with tail | output
        · exact ih _ _ _
        · dsimp only
          split
          · exact .pure _
          · exact ih _ _ _

theorem await_discreet (check : ConvergenceCheck) (probe : Probe) :
    Discreet (await (σ := σ) check probe) :=
  .get (fun _ _ => rfl) fun _ => .bind (restart_discreet check) fun _ =>
    .bind (pollUntil_discreet check probe _ _ _ _) fun _ => .get (fun _ _ => rfl) fun _ =>
      .bind (.log _ _) fun _ => .bind (.log _ _) fun _ => .pure _

end Convergence

/-! ## Bodies -/

namespace Task.Candid

omit [Session σ] in
/-- Data that cannot be read are no fatal failure. -/
theorem decode {α : Type} (result : Data.Decoded α) : (Task.decode (σ := σ) result).Candid := by
  cases result with
  | ok a => exact .pure a
  | error error => exact .fail rfl

omit [Session σ] in
theorem loadAs? {α : Type} (read : Data → Data.Decoded α) (key : String) :
    (Task.loadAs? (σ := σ) read key).Candid := by
  refine .bind (.load? key) fun found => ?_
  cases found with
  | none => exact .pure _
  | some stored => exact .bind (decode _) fun _ => .pure _

theorem showOutput (command : String) : (Task.showOutput (σ := σ) command).Candid :=
  .overSession (fun _ => rfl) (.command _ _)

theorem converse (dialogue : Dialogue) (command : String) :
    (Task.converse (σ := σ) dialogue command).Candid :=
  .job (fun _ _ => rfl) fun _ =>
    .overSession (fun _ => rfl) (dialogue.run_discreet _ _)

end Task.Candid

omit [Session σ] in
theorem NodeStatus.compare_candid (inventory : Inventory) :
    (NodeStatus.compare (σ := σ) inventory).Candid := by
  refine .bind (.loadAs? _ _) fun found => ?_
  cases found with
  | none => exact .pure ()
  | some found => exact .forM fun _ => .warn _

theorem NodeStatus.check_candid : (NodeStatus.check (σ := σ)).Candid := by
  rw [check]
  refine .bind (.showOutput _) fun output => .job (fun _ _ => rfl) fun job => ?_
  refine .bind (.saveFile _ _) fun path => .guarded (.failWith _) fun _ => ?_
  refine .job (fun _ _ => rfl) fun job => .guarded (compare_candid _) fun _ => ?_
  exact .bind (.save _ _) fun _ => .guarded (.failWith _) fun _ => .log _ _

theorem ConfigBackup.backup_candid : (ConfigBackup.backup (σ := σ)).Candid := by
  rw [backup]
  refine .bind (.showOutput _) fun output => .guarded (.failWith _) fun _ => ?_
  exact .job (fun _ _ => rfl) fun job => .bind (.saveFile _ _) fun path => .save _ _

namespace Activation

theorem upgrade_candid (settings : Settings) : (upgrade (σ := σ) settings).Candid := by
  refine .job (fun _ _ => rfl) fun job => ?_
  dsimp only
  split
  · exact .failWith _
  · exact .bind (.postStatus _) fun _ => .bind (.converse _ _) fun _ => .onHost fun _ _ => rfl

/-- A wait that fails is warned of, and its failure is passed on: it is not fatal. -/
theorem awaitDevice_candid : (awaitDevice (σ := σ)).Candid := by
  refine .job (fun _ _ => rfl) fun job => ?_
  have hmild (error : ConvergenceError) : (PluginError.convergence error).Mild := rfl
  have hconverge : (Task.converge (σ := σ) job.assignment.reload).Candid :=
    .overSession hmild (Convergence.await_discreet _ _)
  have hfails : (Task.converge (σ := σ) job.assignment.reload).Mild := .overSession hmild
  refine .bind_comes (.attempt hconverge hfails) fun job answer hanswer => ?_
  cases answer with
  | ok report => exact .pure ()
  | error error =>
      exact .bind (.warn _) fun _ => .fail (hfails job error (Except.ok.inj hanswer))

theorem activate_candid : (activate (σ := σ)).Candid := by
  have hreload : (reload (σ := σ)).Candid :=
    .bind (.log _ _) fun _ => .bind (.postStatus _) fun _ => .converse _ _
  have hprompt : Discreet (σ := σ) (ε := SessionError)
      (do return Session.prompt (← get).session) := .get (fun _ _ => rfl) fun _ => .pure _
  rw [activate]
  refine .job (fun _ _ => rfl) fun job => ?_
  extract_lets ending rest
  have hending (done : Unit) : (ending done).Candid := .bind awaitDevice_candid fun _ => .log _ _
  have hrest (settings : Settings) : (rest settings).Candid := by
    refine .bind (.overSession (fun _ => rfl) hprompt) fun prompt =>
      .bind (.converse _ _) fun _ => ?_
    cases settings.mode with
    | reload => exact .bind hreload hending
    | inService => exact .bind (upgrade_candid settings) hending
  -- settings are read from the plugin's data if there are any
  cases job.pluginData? with
  | some value => exact .bind (.decode _) hrest
  | none => exact .bind (.pure _) hrest

end Activation

omit [Session σ] in
/-- A command may do to the files what it likes. -/
theorem Script.run_candid (runner : CommandRunner) (script : Script) :
    (script.run (σ := σ) runner).Candid := by
  have hexecute (command : String) (limit : Duration) :
      (execute (σ := σ) runner command limit).Candid :=
    .job (fun _ _ => rfl) fun _ => .bind (.onHost fun _ _ => rfl) fun _ => .pure _
  have hlog (entry : String) : (writeLog (σ := σ) entry).Candid :=
    .job (fun _ _ => rfl) fun _ => .onFiles _
  rw [run]
  refine .job (fun _ _ => rfl) fun job => .guarded (.failWith _) fun _ => ?_
  refine .bind (.log _ _) fun _ => .job (fun _ _ => rfl) fun job => ?_
  refine .bind (.onFiles _) fun _ => .bind (hexecute _ _) fun completion => ?_
  cases completion with
  | failed error => exact .failWith _
  | timedOut => exact .failWith _
  | finished output status =>
      refine .job (fun _ _ => rfl) fun job => .bind (hlog _) fun _ => ?_
      exact .guarded (.failWith _) fun _ => .log _ _

/-! ## Plugins -/

/-- The plugins that come with the program: those that are built in, and those of scripts. -/
inductive Supplied : Plugin σ → Prop where
  | builtin {entry : RegistryEntry σ} : entry ∈ Registry.builtin → Supplied entry.plugin
  | script (runner : CommandRunner) (script : Script) : Supplied (script.plugin runner)

/-- **CANDOR**: all of these plugins report their fatal failures, and no others. -/
theorem Supplied.candid {plugin : Plugin σ} (h : Supplied plugin) : plugin.task.Candid := by
  cases h with
  | builtin hentry =>
      simp only [Registry.builtin, List.mem_cons, List.not_mem_nil, or_false] at hentry
      rcases hentry with rfl | rfl | rfl
      · exact NodeStatus.check_candid
      · exact ConfigBackup.backup_candid
      · exact Activation.activate_candid
  | script runner script => exact script.run_candid runner

end Upkeep
