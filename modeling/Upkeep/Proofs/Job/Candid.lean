import Upkeep.Proofs.Job.Told
import Upkeep.Proofs.Session.Discreet

/-! # Candid tasks — an error is reported by the plugin exactly if it is fatal

    A plugin that calls its failure fatal says that it has reported it, and the
    dispatcher takes its word.  A task is `Candid` if that is so: it gives the
    board one error line when it fails fatally, the line of this failure, and
    none when it succeeds or fails in another way.  The notices are the same ones
    whatever board they go to, and the plugin that runs stays the same, so all
    lines of a task carry the same label. -/

namespace Upkeep

variable {σ α β : Type}

namespace Job

/-- The job on a host with another board. -/
def onBoard (board : Board) (job : Job σ) : Job σ := { job with host := job.host.onBoard board }

/-- The error lines of a result: that of a fatal failure, under the name of the plugin that
    runs. -/
def reported (job : Job σ) : Except PluginError α → List String
  | .error (.fatal message) => [job.errorLine message]
  | _ => []

/-- The label is that of the plugin that runs. -/
theorem errorLine_congr {job other : Job σ} (h : other.current = job.current) (message : String) :
    other.errorLine message = job.errorLine message := by
  rw [errorLine, errorLine, label, label, h]

theorem reported_congr {job other : Job σ} (h : other.current = job.current)
    (result : Except PluginError α) : other.reported result = job.reported result := by
  rcases result with error | a
  · cases error with
    | fatal message => exact congrArg (fun line => [line]) (errorLine_congr h message)
    | _ => rfl
  · rfl

end Job

/-- Whether a plugin has reported its failure. -/
def PluginError.isFatal : PluginError → Bool
  | .fatal _ => true
  | _ => false

/-- A failure that its plugin has not reported. -/
def PluginError.Mild (error : PluginError) : Prop := error.isFatal = false

theorem Job.reported_mild {error : PluginError} (h : error.Mild) (job : Job σ) :
    job.reported (.error error : Except PluginError α) = [] := by
  cases error with
  | fatal message => cases h
  | _ => rfl

namespace Task

/-- What a task tells the board: the same notices whatever the board is, with one error line if
    it fails fatally and else with none. -/
def Candid (task : Task σ α) : Prop :=
  ∀ job, ∃ notices,
    (∀ board, task.comes (job.onBoard board)
      = ((task.comes job).1, (task.comes job).2.onBoard (board.takeAll notices))) ∧
    errors notices = job.reported (task.comes job).1 ∧
    (task.comes job).2.current = job.current

/-- A task that reports no error, and whose failures are not fatal. -/
def Mild (task : Task σ α) : Prop :=
  ∀ job error, (task.comes job).1 = .error error → error.Mild

namespace Candid

/-! ## Operations -/

/-- What succeeds or fails mildly, and tells the board nothing. -/
theorem of_silent {task : Task σ α}
    (h : ∀ board job, task.comes (Job.onBoard board job)
      = ((task.comes job).1, (task.comes job).2.onBoard board))
    (hmild : ∀ job, Job.reported job (task.comes job).1 = [])
    (hcurrent : ∀ job, (task.comes job).2.current = job.current) : task.Candid :=
  fun job => ⟨[], fun board => h board job, (hmild job).symm, hcurrent job⟩

protected theorem pure (a : α) : (pure a : Task σ α).Candid :=
  of_silent (fun _ _ => rfl) (fun _ => rfl) fun _ => rfl

protected theorem fail {error : PluginError} (h : error.Mild) :
    (Task.fail error : Task σ α).Candid :=
  of_silent (fun _ _ => rfl) (fun job => job.reported_mild h) fun _ => rfl

/-- A failure that is reported is fatal. -/
protected theorem failWith (message : String) : (Task.failWith message : Task σ α).Candid :=
  fun job => ⟨[.line (job.errorLine message)], fun _ => rfl, errors_error _, rfl⟩

protected theorem onHost {f : Host → Host}
    (h : ∀ board host, f (Host.onBoard board host) = (f host).onBoard board) :
    (Task.onHost (σ := σ) f).Candid :=
  of_silent (fun board job => congrArg (fun host => (Except.ok (), { job with host }))
    (h board job.host)) (fun _ => rfl) fun _ => rfl

protected theorem log (level : Level) (message : String) :
    (Task.log (σ := σ) level message).Candid :=
  of_silent (fun _ _ => rfl) (fun _ => rfl) fun _ => rfl

protected theorem warn (message : String) : (Task.warn (σ := σ) message).Candid :=
  fun job => ⟨[.line (job.warningLine message)], fun _ => rfl, errors_warning _, rfl⟩

protected theorem postStatus (message : String) : (Task.postStatus (σ := σ) message).Candid :=
  fun _ => ⟨[.status message], fun _ => rfl, rfl, rfl⟩

protected theorem save (key : String) (value : Data) : (Task.save (σ := σ) key value).Candid :=
  of_silent (fun _ _ => rfl) (fun _ => rfl) fun _ => rfl

protected theorem load? (key : String) : (Task.load? (σ := σ) key).Candid := by
  refine of_silent ?_ (fun _ => rfl) fun job => (Job.Told.load? job key).current
  intro board job
  have hstore : (job.onBoard board).store = job.store := rfl
  simp only [comes, Task.load?, Job.load?, hstore]
  split
  · rfl
  · rfl

protected theorem onFiles (f : Files → Except IoError Files) :
    (Task.onFiles (σ := σ) f).Candid := by
  refine of_silent ?_ ?_ ?_
  · intro board job
    have hfiles : (job.onBoard board).host.files = job.host.files := rfl
    simp only [comes, Task.onFiles, hfiles]
    cases f job.host.files with
    | ok files => rfl
    | error error => rfl
  all_goals
    intro job
    rw [comes, Task.onFiles]
    split
    · rfl
    · rfl

protected theorem saveFile (name text : String) : (Task.saveFile (σ := σ) name text).Candid := by
  refine of_silent ?_ ?_ fun job => (Job.Told.saveFile job name text).current
  · intro board job
    have hfiles : (job.onBoard board).host.files = job.host.files := rfl
    have hdirectory : (job.onBoard board).assignment.logDir = job.assignment.logDir := rfl
    simp only [comes, Task.saveFile, Job.saveFile, hfiles, hdirectory]
    split
    · rfl
    · split
      · rfl
      · rfl
  · intro job
    simp only [comes, Task.saveFile, Job.saveFile]
    split
    · rfl
    · split
      · rfl
      · rfl

/-- What is done over the session reports nothing, so its failures must not be fatal. -/
protected theorem overSession {ε : Type} {wrap : ε → PluginError} {action : LinkM ε σ α}
    (hwrap : ∀ error, (wrap error).Mild) (h : Discreet action) :
    (Task.overSession wrap action).Candid := by
  intro job
  cases hsession : job.session with
  | none =>
      have hcomes (board : Board) : (Task.overSession wrap action).comes (job.onBoard board)
          = (.error (.session .notConnected), job.onBoard board) := by
        have hsame : (job.onBoard board).session = none := hsession
        rw [comes, Task.overSession, hsame]
      have hbare : (Task.overSession wrap action).comes job
          = (.error (.session .notConnected), job) := by
        rw [comes, Task.overSession, hsession]
      rw [hbare]
      exact ⟨[], hcomes, rfl, rfl⟩
  | some session =>
      obtain ⟨notices, hnone, htold⟩ := h ⟨session, job.host⟩
      refine ⟨notices, fun board => ?_, ?_, ?_⟩
      · have hsame : (job.onBoard board).session = some session := hsession
        have hlink : action ⟨session, (job.onBoard board).host⟩ = _ := htold board
        rw [comes_overSession wrap action hsame, comes_overSession wrap action hsession, hlink]
        rfl
      · rw [hnone, comes_overSession wrap action hsession]
        rcases (action ⟨session, job.host⟩).1 with error | a
        · exact (job.reported_mild (hwrap error)).symm
        · rfl
      · rw [comes_overSession wrap action hsession]

/-! ## Tasks in a row -/

/-- A failure that is taken as a value must not have been reported. -/
protected theorem attempt {task : Task σ α} (h : task.Candid) (hmild : task.Mild) :
    task.attempt.Candid := by
  intro job
  obtain ⟨notices, htold, herrors, hcurrent⟩ := h job
  refine ⟨notices, fun board => ?_, ?_, hcurrent⟩
  · obtain ⟨hresult, hleft⟩ := Prod.ext_iff.mp (htold board)
    exact Prod.ext (congrArg Except.ok hresult) hleft
  · rw [herrors]
    rcases hresult : (task.comes job).1 with error | a
    · exact job.reported_mild (hmild job error hresult)
    · rfl

/-- Two candid tasks in a row are candid: the first one has reported nothing if the second one
    runs. The second one need only be candid for what the first one can come to. -/
theorem bind_comes {task : Task σ α} {next : α → Task σ β} (h : task.Candid)
    (hnext : ∀ job a, (task.comes job).1 = .ok a → (next a).Candid) : (task >>= next).Candid := by
  intro job
  obtain ⟨notices, htold, herrors, hcurrent⟩ := h job
  have hsecond := hnext job
  rcases htask : task.comes job with ⟨error | a, mid⟩
  all_goals rw [htask] at htold herrors hcurrent
  · refine ⟨notices, fun board => ?_, ?_, ?_⟩
    · rw [comes_bind, comes_bind, htask, htold board]
    · rw [comes_bind, htask, herrors]
      cases error <;> rfl
    · rw [comes_bind, htask]
      exact hcurrent
  · rw [htask] at hsecond
    obtain ⟨more, htold', herrors', hcurrent'⟩ := hsecond a rfl mid
    refine ⟨notices ++ more, fun board => ?_, ?_, ?_⟩
    · rw [comes_bind, comes_bind, htask, htold board, Board.takeAll_append]
      exact htold' _
    · rw [comes_bind, htask, errors_append, herrors, herrors', Job.reported_congr hcurrent]
      rfl
    · rw [comes_bind, htask]
      exact hcurrent'.trans hcurrent

protected theorem bind {task : Task σ α} {next : α → Task σ β} (h : task.Candid)
    (hnext : ∀ a, (next a).Candid) : (task >>= next).Candid := h.bind_comes fun _ a _ => hnext a

/-- Something that is done under a condition, before the rest. -/
theorem guarded {c : Prop} [Decidable c] {task : Task σ Unit} {next : Unit → Task σ α}
    (h : task.Candid) (hnext : ∀ a, (next a).Candid) :
    (if c then task >>= next else next ()).Candid := by
  split
  · exact .bind h hnext
  · exact hnext ()

/-- A candid task for each item of a list. -/
protected theorem forM {ι : Type} {items : List ι} {task : ι → Task σ Unit}
    (h : ∀ item, (task item).Candid) : (items.forM task).Candid := by
  induction items with
  | nil => exact .pure ()
  | cons item rest ih => exact .bind (h item) fun _ => ih

/-- Looking at what is not on the board. -/
protected theorem job {next : Job σ → Task σ α}
    (same : ∀ board job, next (Job.onBoard board job) = next job)
    (h : ∀ job, (next job).Candid) : (Task.job >>= next).Candid := by
  intro job
  have hlook (job : Job σ) : (Task.job >>= next).comes job = (next job).comes job := comes_bind ..
  obtain ⟨notices, htold, herrors, hcurrent⟩ := h job job
  refine ⟨notices, fun board => ?_, ?_, ?_⟩
  · rw [hlook, hlook, same]
    exact htold board
  · rw [hlook]
    exact herrors
  · rw [hlook]
    exact hcurrent

end Candid

/-- What is done over a session fails as the session does, or for lack of one. -/
theorem Mild.overSession {ε : Type} {wrap : ε → PluginError} {action : LinkM ε σ α}
    (hwrap : ∀ error, (wrap error).Mild) : (Task.overSession wrap action).Mild := by
  intro job error h
  cases hsession : job.session with
  | none =>
      rw [comes, Task.overSession, hsession] at h
      obtain rfl := Except.error.inj h
      rfl
  | some session =>
      rw [comes_overSession wrap action hsession] at h
      rcases hresult : (action ⟨session, job.host⟩).1 with other | a
      all_goals rw [hresult] at h
      · obtain rfl := Except.error.inj h
        exact hwrap other
      · cases h

end Task

end Upkeep
