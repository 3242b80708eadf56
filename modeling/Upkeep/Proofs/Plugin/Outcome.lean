import Upkeep.Plugin.Builtin
import Upkeep.Plugin.Script
import Upkeep.Proofs.Dispatch.Conclusion
import Upkeep.Proofs.Dispatch.History
import Upkeep.Proofs.Job.Told
import Upkeep.Proofs.Plugin.Activation

/-! # Outcomes — the plugins that come with the program leave them to the dispatcher

    A dispatch is concluded by its result if no body has finalized the job, and a
    history takes in every body that does no more than work and finalize.  The
    registry of the program has built-in plugins and the plugins of scripts, and
    all of them are of the first kind, so they are of the second one as well.

    Of the operations of a task, only `finalize` touches the outcome.  The proofs
    go through a body operation by operation, and need a lemma for those that can
    leave the job in more than one way. -/

namespace Upkeep

variable {σ : Type} {α : Type}

/-! ## Operations -/

namespace Task.Keeps

/-- A failure that is taken as a value has left the job as it is. -/
protected theorem attempt {γ : Type} {view : Job σ → γ} {task : Task σ α} (h : task.Keeps view) :
    task.attempt.Keeps view := fun job => h job

theorem decode_outcome (result : Data.Decoded α) :
    (Task.decode (σ := σ) result).Keeps Job.outcome := by
  cases result with
  | ok => exact fun _ => rfl
  | error => exact fun _ => rfl

theorem loadAs_outcome (read : Data → Data.Decoded α) (key : String) :
    (Task.loadAs? (σ := σ) read key).Keeps Job.outcome := by
  have hload : (Task.load? (σ := σ) key).Keeps Job.outcome :=
    fun job => (Job.Told.load? job key).outcome
  refine .bind hload fun found => ?_
  cases found with
  | none => exact fun _ => rfl
  | some stored => exact .bind (.decode_outcome _) fun _ _ => rfl

theorem saveFile_outcome (name text : String) :
    (Task.saveFile (σ := σ) name text).Keeps Job.outcome :=
  fun job => (Job.Told.saveFile job name text).outcome

theorem onFiles_outcome (f : Files → Except IoError Files) :
    (Task.onFiles (σ := σ) f).Keeps Job.outcome := by
  intro job
  rw [Task.onFiles]
  split
  · rfl
  · rfl

theorem overSession_outcome {ε : Type} (wrap : ε → PluginError) (action : LinkM ε σ α) :
    (Task.overSession wrap action).Keeps Job.outcome :=
  Task.Keeps.overSession (fun _ _ _ => rfl) wrap action

/-- Something that is done under a condition, before the rest. -/
theorem guarded {γ : Type} {view : Job σ → γ} {c : Prop} [Decidable c] {task : Task σ Unit}
    {next : Unit → Task σ α} (h : task.Keeps view) (hnext : ∀ a, (next a).Keeps view) :
    (if c then task >>= next else next ()).Keeps view := by
  split
  · exact .bind h hnext
  · exact hnext ()

/-- A task for each item of a list keeps what each of them keeps. -/
protected theorem forM {γ ι : Type} {view : Job σ → γ} {items : List ι} {task : ι → Task σ Unit}
    (h : ∀ item, (task item).Keeps view) : (items.forM task).Keeps view := by
  induction items with
  | nil => exact fun _ => rfl
  | cons item rest ih => exact .bind (h item) fun _ => ih

end Task.Keeps

/-! ## Bodies -/

theorem NodeStatus.compare_outcome (inventory : Inventory) :
    (NodeStatus.compare (σ := σ) inventory).Keeps Job.outcome := by
  rw [compare]
  refine .bind (.loadAs_outcome _ _) fun found => ?_
  cases found with
  | none => exact fun _ => rfl
  | some found => exact .forM fun _ _ => rfl

variable [Session σ]

theorem NodeStatus.check_outcome : (NodeStatus.check (σ := σ)).Keeps Job.outcome := by
  rw [check]
  refine .bind (.overSession_outcome _ _) fun output => ?_
  refine .bind (fun _ => rfl) fun job => .bind (.saveFile_outcome _ _) fun path => ?_
  refine .guarded (fun _ => rfl) fun _ => .bind (fun _ => rfl) fun job => ?_
  refine .guarded (compare_outcome _) fun _ => .bind (fun _ => rfl) fun _ => ?_
  exact .guarded (fun _ => rfl) fun _ _ => rfl

theorem ConfigBackup.backup_outcome : (ConfigBackup.backup (σ := σ)).Keeps Job.outcome := by
  rw [backup]
  refine .bind (.overSession_outcome _ _) fun output => .guarded (fun _ => rfl) fun _ => ?_
  exact .bind (fun _ => rfl) fun job => .bind (.saveFile_outcome _ _) fun path _ => rfl

namespace Activation

theorem converse_outcome (dialogue : Dialogue) (command : String) :
    (Task.converse (σ := σ) dialogue command).Keeps Job.outcome :=
  .bind (fun _ => rfl) fun _ => .overSession_outcome _ _

theorem reload_outcome : (reload (σ := σ)).Keeps Job.outcome :=
  .bind (fun _ => rfl) fun _ => .bind (fun _ => rfl) fun _ => converse_outcome _ _

theorem upgrade_outcome (settings : Settings) :
    (upgrade (σ := σ) settings).Keeps Job.outcome := by
  rw [upgrade]
  refine .bind (fun _ => rfl) fun job => ?_
  dsimp only
  split
  · exact fun _ => rfl
  · exact .bind (fun _ => rfl) fun _ => .bind (converse_outcome _ _) fun _ _ => rfl

theorem awaitDevice_outcome : (awaitDevice (σ := σ)).Keeps Job.outcome := by
  rw [awaitDevice]
  refine .bind (fun _ => rfl) fun job => ?_
  refine .bind (.attempt (.overSession_outcome _ _)) fun answer => ?_
  cases answer with
  | ok => exact fun _ => rfl
  | error => exact .bind (fun _ => rfl) fun _ _ => rfl

theorem work_outcome (settings : Settings) : (work (σ := σ) settings).Keeps Job.outcome := by
  rw [work]
  cases settings.mode with
  | reload => exact reload_outcome
  | inService => exact upgrade_outcome settings

theorem activate_outcome : (activate (σ := σ)).Keeps Job.outcome := by
  have hproceed (settings : Settings) (prompt : Pattern) :
      (proceed (σ := σ) settings prompt).Keeps Job.outcome :=
    .bind (converse_outcome _ _) fun _ => .bind (work_outcome settings) fun _ =>
      .bind awaitDevice_outcome fun _ _ => rfl
  intro job
  show (activate.comes job).2.outcome = job.outcome
  rw [activate_comes]
  cases settings? job with
  | error error => rfl
  | ok settings =>
      dsimp only
      cases job.session with
      | none => rfl
      | some session => exact hproceed settings _ job

end Activation

omit [Session σ] in
theorem Script.run_outcome (runner : CommandRunner) (script : Script) :
    (script.run (σ := σ) runner).Keeps Job.outcome := by
  have hexecute (command : String) (limit : Duration) :
      (execute (σ := σ) runner command limit).Keeps Job.outcome :=
    .bind (fun _ => rfl) fun _ => .bind (fun _ => rfl) fun _ _ => rfl
  have hlog (entry : String) : (writeLog (σ := σ) entry).Keeps Job.outcome :=
    .bind (fun _ => rfl) fun _ => .onFiles_outcome _
  rw [run]
  refine .bind (fun _ => rfl) fun job => .guarded (fun _ => rfl) fun _ => ?_
  refine .bind (fun _ => rfl) fun _ => .bind (fun _ => rfl) fun job => ?_
  refine .bind (.onFiles_outcome _) fun _ => .bind (hexecute _ _) fun completion => ?_
  cases completion with
  | failed => exact fun _ => rfl
  | timedOut => exact fun _ => rfl
  | finished output status =>
      refine .bind (fun _ => rfl) fun job => .bind (hlog _) fun _ => ?_
      exact .guarded (fun _ => rfl) fun _ _ => rfl

/-! ## Registries -/

/-- **BUILTIN**: the built-in plugins leave the outcome alone. -/
theorem builtin_outcome : ∀ entry ∈ Registry.builtin (σ := σ),
    entry.plugin.task.Keeps Job.outcome := by
  intro entry hentry
  simp only [Registry.builtin, List.mem_cons, List.not_mem_nil, or_false] at hentry
  rcases hentry with rfl | rfl | rfl
  · exact NodeStatus.check_outcome
  · exact ConfigBackup.backup_outcome
  · exact Activation.activate_outcome

omit [Session σ] in
/-- **SCRIPTS**: so do the plugins of scripts, whatever their commands do. -/
theorem script_outcome (runner : CommandRunner) (path : String) (scripts : List Script) :
    ∀ entry ∈ Script.entries (σ := σ) runner path scripts,
      entry.plugin.task.Keeps Job.outcome := by
  intro entry hentry
  obtain ⟨⟨script, index⟩, -, rfl⟩ := List.mem_map.mp hentry
  exact script.run_outcome runner

namespace Dispatch

variable (runner : CommandRunner) (path : String) (scripts : List Script)

/-- So the registry of the program does, with a file of scripts. -/
theorem supplied_outcome :
    ∀ entry ∈ Registry.builtin (σ := σ) ++ Script.entries runner path scripts,
      entry.plugin.task.Keeps Job.outcome :=
  fun entry hentry => (List.mem_append.mp hentry).elim (builtin_outcome entry)
    (script_outcome runner path scripts entry)

/-- **ORDERLY**: a dispatch of this registry belongs to a history. -/
theorem supplied_orderly :
    Orderly (Registry.builtin (σ := σ) ++ Script.entries runner path scripts) :=
  fun entry hentry => .of_keeps (supplied_outcome runner path scripts entry hentry) trivial

/-- **CONCLUDED**: whatever comes of a dispatch of this registry, the dispatcher concludes it. -/
theorem supplied_concluded (dispatcher : Dispatcher) {job : Job σ} (pending : job.outcome = none) :
    let working := dispatcher.working (.builtin ++ Script.entries runner path scripts) job
    Concluded working (finish working).1 (finish working).2 :=
  concluded_finish (working_pending dispatcher pending (supplied_outcome runner path scripts))

end Dispatch

end Upkeep
