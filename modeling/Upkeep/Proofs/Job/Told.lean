import Upkeep.Proofs.Job.Account
import Upkeep.Proofs.Job.Recorded

/-! # Told jobs — what is kept with a job, and nothing else that changes

    Much of what a plugin does is seen on the board at most: it files a text, it
    looks a value up, it has a command answered, it warns.  Of each of these it is
    enough to know the lines that have been kept with the job (`Job.Told`).  What
    the job is asked to do, the plugin that runs and the store are as before, so
    the lines of all of them carry one label.

    A value of the store that is read is there, and the reader takes it
    (`Task.loadAs_some`). -/

namespace Upkeep

variable {σ α : Type}

/-- A command gives the board nothing. -/
theorem Link.command_board [Session σ] (line : String) (limit : Duration) (link : Link σ) :
    (Link.command line limit link).2.host.board = link.host.board := by
  rw [Link.command, Action.bind_apply]
  have hsend : (Link.call (Session.send line) link).2.host.board = link.host.board := rfl
  rcases hsent : Link.call (Session.send line) link with ⟨error | _, sent⟩
  all_goals rw [hsent] at hsend
  · exact hsend
  · dsimp only
    rw [Action.bind_apply, Action.get_apply]
    dsimp only
    rw [Action.bind_apply]
    rcases hexpect : Link.call (Session.expect [Session.prompt sent.session] limit) sent with
      ⟨error | found, heard⟩
    · exact (congrArg (·.2.host.board) hexpect).symm.trans hsend
    · exact (congrArg (·.2.host.board) hexpect).symm.trans hsend

/-! ## Jobs that are told something -/

/-- The job when some lines have been kept with it, and otherwise as it was: asked to do the same,
    with the same plugin running, the same store and no other outcome. -/
structure Job.Told (job : Job σ) (lines : List String) (next : Job σ) : Prop where
  assignment : next.assignment = job.assignment
  current : next.current = job.current
  store : next.store = job.store
  outcome : next.outcome = job.outcome
  board : next.host.board = lines.foldl Board.save job.host.board

namespace Job.Told

variable {job mid next : Job σ} {lines more : List String}

protected theorem refl (job : Job σ) : job.Told [] job := ⟨rfl, rfl, rfl, rfl, rfl⟩

protected theorem trans (h : job.Told lines mid) (hmore : mid.Told more next) :
    job.Told (lines ++ more) next where
  assignment := hmore.assignment.trans h.assignment
  current := hmore.current.trans h.current
  store := hmore.store.trans h.store
  outcome := hmore.outcome.trans h.outcome
  board := by rw [hmore.board, h.board, List.foldl_append]

theorem warn (job : Job σ) (message : String) :
    job.Told [job.warningLine message] (job.warn message) := ⟨rfl, rfl, rfl, rfl, rfl⟩

theorem log (job : Job σ) (level : Level) (message : String) :
    job.Told [] (job.log level message) := ⟨rfl, rfl, rfl, rfl, rfl⟩

theorem load? (job : Job σ) (key : String) : job.Told [] (job.load? key).2 := by
  rw [Job.load?]
  split
  · exact .refl job
  · exact .log job _ _

theorem saveFile (job : Job σ) (name text : String) : job.Told [] (job.saveFile name text).2 := by
  rw [Job.saveFile]
  dsimp only
  split
  · exact .refl job
  · split
    · exact ⟨rfl, rfl, rfl, rfl, rfl⟩
    · exact ⟨rfl, rfl, rfl, rfl, rfl⟩

/-- A session has no hold on the board. -/
theorem command [Session σ] (job : Job σ) (line : String) (limit : Duration) :
    job.Told [] ((Task.overSession .session (Link.command line limit)).comes job).2 := by
  rw [Task.comes, Task.overSession]
  split
  · exact .refl job
  · exact ⟨rfl, rfl, rfl, rfl, Link.command_board line limit _⟩

/-- The lines of warnings carry the label of the plugin that runs. -/
theorem warningLine_eq (h : job.Told lines next) (message : String) :
    next.warningLine message = job.warningLine message := by
  rw [warningLine, warningLine, label, label, h.current]

end Job.Told

namespace Task

variable {key : String} {job : Job σ} {read : Data → Data.Decoded α}

/-- What is not in the store is not read. -/
theorem loadAs_none (read : Data → Data.Decoded α) (h : Fields.get? key job.store = none) :
    (loadAs? read key).comes job = (.ok none, job) := by
  have hload : (load? key).comes job = (.ok none, job) := by
    show (Except.ok (job.load? key).1, (job.load? key).2) = _
    rw [Job.load?, h]
  rw [loadAs?, comes_bind, hload]
  rfl

/-- What is in the store is read, and when it was put there. -/
theorem loadAs_some {value : Data} {since : Instant} {a : α}
    (h : Fields.get? key job.store = some ⟨value, since⟩) (hread : read value = .ok a) :
    (loadAs? read key).comes job = (.ok (some (a, since)), (job.load? key).2) := by
  have hload : (load? key).comes job = (.ok (some ⟨value, since⟩), (job.load? key).2) := by
    show (Except.ok (job.load? key).1, (job.load? key).2) = _
    rw [Job.load?, h]
  rw [loadAs?, comes_bind, hload]
  dsimp only
  rw [comes_bind, hread]
  rfl

theorem comes_job (job : Job σ) : Task.job.comes job = (.ok job, job) := rfl

/-- Files that can be changed are changed. -/
theorem comes_onFiles {f : Files → Except IoError Files} {files : Files}
    (h : f job.host.files = .ok files) :
    (onFiles f).comes job = (.ok (), job.onHost ({ · with files })) := by
  rw [comes, onFiles]
  simp only [h]

/-- A file that is written is written by the job. -/
theorem comes_saveFile {name text : String} (h : (job.saveFile name text).1.isOk = true) :
    ∃ path, (saveFile name text).comes job = (.ok path, (job.saveFile name text).2) := by
  show ∃ path, ((job.saveFile name text).1.mapError PluginError.io, (job.saveFile name text).2) = _
  cases hsaved : (job.saveFile name text).1 with
  | ok path => exact ⟨path, rfl⟩
  | error error =>
      rw [hsaved] at h
      exact nomatch h

/-- Warnings are kept with the job one after the other. -/
theorem forM_warn {ι : Type} (message : ι → String) (items : List ι) (job : Job σ) :
    ∃ next, (items.forM fun item => warn (message item)).comes job = (.ok (), next) ∧
      job.Told (items.map fun item => job.warningLine (message item)) next := by
  induction items generalizing job with
  | nil => exact ⟨job, rfl, .refl job⟩
  | cons item rest ih =>
      obtain ⟨next, hcomes, htold⟩ := ih (job.warn (message item))
      have hwarn := Job.Told.warn job (message item)
      refine ⟨next, ?_, ?_⟩
      · show (warn (message item) >>= fun _ => rest.forM fun item =>
          warn (message item)).comes job = _
        rw [comes_bind]
        exact hcomes
      · simp only [hwarn.warningLine_eq] at htold
        exact hwarn.trans htold

end Task

end Upkeep
