import Upkeep.Plugin.Builtin
import Upkeep.Plugin.Script
import Upkeep.Proofs.Job.Alike

/-! # Blindness — the plugins that come with the program do not ask who ordered them

    A plugin might do one thing when its job has an order and another when it
    has none.  The built-in plugins and those of scripts do not: their bodies are
    blind, whatever a command on the host does to the files.

    A body is gone through operation by operation.  A dialogue and a wait for the
    device go over a link, where there is no order to look at, so for them it is
    enough to be steady. -/

namespace Upkeep

variable {σ : Type} [Session σ]

/-! ## Dialogues -/

namespace Dialogue

theorem sendLines_steady (dialogue : Dialogue) (lines : List String) :
    Steady (dialogue.sendLines (σ := σ) lines) := by
  induction lines with
  | nil => exact .pure ()
  | cons line rest ih => exact .bind (.mapError _ (.call _)) fun _ => ih

/-- The effects of an action are carried out behind any past. -/
theorem behind_apply (dialogue : String) (effects : List Effect) (past : Past) (host : Host) :
    effects.foldl (Effect.apply dialogue) (host.behind past)
      = (effects.foldl (Effect.apply dialogue) host).behind past := by
  induction effects generalizing host with
  | nil => rfl
  | cons effect rest ih =>
      have heffect : Effect.apply dialogue (host.behind past) effect
          = (Effect.apply dialogue host effect).behind past := by
        cases effect with
        | send line => rfl
        | post message => exact host.behind_postStatus past message
        | warn message =>
            rw [Effect.apply, Effect.apply, Host.behind_log, Host.behind_saveJobInfo]
        | note value => exact host.behind_note past value
      rw [List.foldl_cons, List.foldl_cons, heffect]
      exact ih _

theorem act_steady (dialogue : Dialogue) (transition : Transition) (state : Int) (found : Match) :
    Steady (dialogue.act (σ := σ) transition state found) := by
  rw [act]
  cases transition.action with
  | none => exact .pure ()
  | some action =>
      refine .bind (.onHost (behind_apply _ _)) fun _ =>
        .bind (dialogue.sendLines_steady _) fun _ => ?_
      cases (action ⟨dialogue.name, state, found.before, found.text⟩).accepts with
      | true => exact .pure ()
      | false => exact .throw _

theorem follow_steady (dialogue : Dialogue) (waits : Nat) (state : Int) (limit : Duration) :
    Steady (dialogue.follow (σ := σ) waits state limit) := by
  induction waits generalizing state limit with
  | zero => exact .throw _
  | succ waits ih =>
      refine .bind (.mapError _ (.call _)) fun found => ?_
      dsimp only
      split
      · exact .throw _
      · refine .bind (.log _ _) fun _ => .bind (dialogue.act_steady _ _ _) fun _ => ?_
        split
        · exact .pure ()
        · exact ih _ _

theorem run_steady (dialogue : Dialogue) (waits : Nat) (command : String) :
    Steady (dialogue.run (σ := σ) waits command) :=
  .bind (.log _ _) fun _ => .bind (dialogue.sendLines_steady _) fun _ =>
    dialogue.follow_steady _ _ _

end Dialogue

/-! ## Waits for the device -/

namespace Convergence

omit [Session σ] in
theorem announce_steady (message : String) : Steady (announce (σ := σ) message) := by
  refine .onHost ?_
  intro past host
  rw [Host.behind_postStatus, Host.behind_log]

theorem restart_steady (check : ConvergenceCheck) : Steady (restart (σ := σ) check) :=
  .bind (.mapError _ (.call _)) fun _ => .bind (announce_steady _) fun _ =>
    .bind (.onHost fun _ _ => rfl) fun _ => .bind (.mapError _ (.call _)) fun _ =>
      .bind (.log _ _) fun _ => .bind (announce_steady _) fun _ => .onHost fun _ _ => rfl

theorem poll_steady (check : ConvergenceCheck) (attempt : Nat) :
    Steady (poll (σ := σ) check attempt) := by
  refine .bind (.onHost fun _ _ => rfl) fun _ => .bind (.attempt (.command _ _)) fun answer => ?_
  split
  · exact .bind (.log _ _) fun _ => .pure _
  · exact .bind (.log _ _) fun _ => .pure _
  · exact .throw _

theorem pollUntil_steady (check : ConvergenceCheck) (probe : Probe) (left made : Nat)
    (waited : Duration) (last : Option Text) :
    Steady (pollUntil (σ := σ) check probe left made waited last) := by
  induction left generalizing made waited last with
  | zero => exact .throw _
  | succ left ih =>
      rw [pollUntil]
      split
      · exact .throw _
      · refine .bind (poll_steady check _) fun answer => ?_
        rcases answer with tail | output
        · exact ih _ _ _
        · dsimp only
          split
          · exact .pure _
          · exact ih _ _ _

theorem await_steady (check : ConvergenceCheck) (probe : Probe) :
    Steady (await (σ := σ) check probe) :=
  .get (fun _ _ => rfl) fun _ => .bind (restart_steady check) fun _ =>
    .bind (pollUntil_steady check probe _ _ _ _) fun _ => .get (fun _ _ => rfl) fun _ =>
      .bind (.log _ _) fun _ => .bind (.log _ _) fun _ => .pure _

end Convergence

/-! ## Bodies -/

namespace Task.Blind

omit [Session σ] in
theorem decode {α : Type} (result : Data.Decoded α) : (Task.decode (σ := σ) result).Blind := by
  cases result with
  | ok a => exact .pure a
  | error error => exact .fail _

omit [Session σ] in
theorem loadAs? {α : Type} (read : Data → Data.Decoded α) (key : String) :
    (Task.loadAs? (σ := σ) read key).Blind := by
  refine .bind (.load? key) fun found => ?_
  cases found with
  | none => exact .pure _
  | some stored => exact .bind (decode _) fun _ => .pure _

theorem showOutput (command : String) : (Task.showOutput (σ := σ) command).Blind :=
  .overSession _ (.command _ _)

theorem converse (dialogue : Dialogue) (command : String) :
    (Task.converse (σ := σ) dialogue command).Blind :=
  .job (fun _ _ _ _ => rfl) fun _ => .overSession _ (dialogue.run_steady _ _)

end Task.Blind

omit [Session σ] in
theorem NodeStatus.compare_blind (inventory : Inventory) :
    (NodeStatus.compare (σ := σ) inventory).Blind := by
  refine .bind (.loadAs? _ _) fun found => ?_
  cases found with
  | none => exact .pure ()
  | some found => exact .forM fun _ => .warn _

theorem NodeStatus.check_blind : (NodeStatus.check (σ := σ)).Blind := by
  rw [check]
  refine .bind (.showOutput _) fun output => .job (fun _ _ _ _ => rfl) fun job => ?_
  refine .bind (.saveFile _ _) fun path => .guarded (.failWith _) fun _ => ?_
  refine .job (fun _ _ _ _ => rfl) fun job => .guarded (compare_blind _) fun _ => ?_
  exact .bind (.save _ _) fun _ => .guarded (.failWith _) fun _ => .log _ _

theorem ConfigBackup.backup_blind : (ConfigBackup.backup (σ := σ)).Blind := by
  rw [backup]
  refine .bind (.showOutput _) fun output => .guarded (.failWith _) fun _ => ?_
  exact .job (fun _ _ _ _ => rfl) fun job => .bind (.saveFile _ _) fun path => .save _ _

namespace Activation

theorem upgrade_blind (settings : Settings) : (upgrade (σ := σ) settings).Blind := by
  refine .job (fun _ _ _ _ => rfl) fun job => ?_
  dsimp only
  split
  · exact .failWith _
  · exact .bind (.postStatus _) fun _ => .bind (.converse _ _) fun _ => .onHost fun _ _ => rfl

theorem awaitDevice_blind : (awaitDevice (σ := σ)).Blind := by
  refine .job (fun _ _ _ _ => rfl) fun job => ?_
  refine .bind (.attempt (.overSession _ (Convergence.await_steady _ _))) fun answer => ?_
  cases answer with
  | ok report => exact .pure ()
  | error error => exact .bind (.warn _) fun _ => .fail error

theorem activate_blind : (activate (σ := σ)).Blind := by
  have hreload : (reload (σ := σ)).Blind :=
    .bind (.log _ _) fun _ => .bind (.postStatus _) fun _ => .converse _ _
  have hprompt : Steady (σ := σ) (ε := SessionError)
      (do return Session.prompt (← get).session) := .get (fun _ _ => rfl) fun _ => .pure _
  rw [activate]
  refine .job (fun _ _ _ _ => rfl) fun job => ?_
  extract_lets ending rest
  have hending (done : Unit) : (ending done).Blind := .bind awaitDevice_blind fun _ => .log _ _
  have hrest (settings : Settings) : (rest settings).Blind := by
    refine .bind (.overSession _ hprompt) fun prompt => .bind (.converse _ _) fun _ => ?_
    cases settings.mode with
    | reload => exact .bind hreload hending
    | inService => exact .bind (upgrade_blind settings) hending
  -- settings are read from the plugin's data if there are any
  cases job.pluginData? with
  | some value => exact .bind (.decode _) hrest
  | none => exact .bind (.pure _) hrest

end Activation

omit [Session σ] in
/-- A command may do to the files what it likes. -/
theorem Script.run_blind (runner : CommandRunner) (script : Script) :
    (script.run (σ := σ) runner).Blind := by
  have hexecute (command : String) (limit : Duration) :
      (execute (σ := σ) runner command limit).Blind :=
    .job (fun _ _ _ _ => rfl) fun _ => .bind (.onHost fun _ _ => rfl) fun _ => .pure _
  have hlog (entry : String) : (writeLog (σ := σ) entry).Blind :=
    .job (fun _ _ _ _ => rfl) fun _ => .onFiles _
  rw [run]
  refine .job (fun _ _ _ _ => rfl) fun job => .guarded (.failWith _) fun _ => ?_
  refine .bind (.log _ _) fun _ => .job (fun _ _ _ _ => rfl) fun job => ?_
  refine .bind (.onFiles _) fun _ => .bind (hexecute _ _) fun completion => ?_
  cases completion with
  | failed error => exact .failWith _
  | timedOut => exact .failWith _
  | finished output status =>
      refine .job (fun _ _ _ _ => rfl) fun job => .bind (hlog _) fun _ => ?_
      exact .guarded (.failWith _) fun _ => .log _ _

/-! ## Registries -/

/-- **BUILTIN**: the built-in plugins look neither at the order nor at the restriction to some
    names, nor back at what was told. -/
theorem builtin_blind : ∀ entry ∈ Registry.builtin (σ := σ), entry.plugin.task.Blind := by
  intro entry hentry
  simp only [Registry.builtin, List.mem_cons, List.not_mem_nil, or_false] at hentry
  rcases hentry with rfl | rfl | rfl
  · exact NodeStatus.check_blind
  · exact ConfigBackup.backup_blind
  · exact Activation.activate_blind

omit [Session σ] in
/-- **SCRIPTS**: neither do the plugins of scripts. -/
theorem script_blind (runner : CommandRunner) (path : String) (scripts : List Script) :
    ∀ entry ∈ Script.entries (σ := σ) runner path scripts, entry.plugin.task.Blind := by
  intro entry hentry
  obtain ⟨⟨script, index⟩, -, rfl⟩ := List.mem_map.mp hentry
  exact script.run_blind runner

end Upkeep
