import Upkeep.Plugin.Catalog
import Upkeep.Proofs.Host.Board
import Upkeep.Proofs.Session.Recorded

/-! # Accounts — what reporting and finalizing do to a job

    A report goes to the host and to nothing else.  So the account of the
    plugins that ran, the store and the session are what they were, however
    much has been reported, and the board has grown by the lines of the report.

    Finalizing is one update: `finalize_eq` names every part of the job that it
    touches, and the frame lemmas behind it read off what stays. -/

namespace Upkeep

namespace Job

variable {σ : Type} {job : Job σ}

/-! ## Reports -/

/-- The line that a warning leaves on the board. -/
def warningLine (job : Job σ) (message : String) : String := "WARNING: " ++ job.label message

/-- The line that an error leaves on the board. -/
def errorLine (job : Job σ) (message : String) : String := "ERROR: " ++ job.label message

/-- The job after a warning for each complaint of a catalog. -/
def warnAll (complaints : List Complaint) (job : Job σ) : Job σ :=
  complaints.foldl (fun job complaint => job.warn complaint.message) job

/-- Warnings change the host alone, and all of them carry the same label. -/
theorem warnAll_eq (complaints : List Complaint) (job : Job σ) :
    job.warnAll complaints = job.onHost fun host =>
      complaints.foldl (fun host complaint =>
        (host.saveJobInfo (job.warningLine complaint.message)).log .warn
          (job.label complaint.message)) host := by
  induction complaints generalizing job with
  | nil => rfl
  | cons complaint rest ih =>
      have step : job.warnAll (complaint :: rest)
          = (job.warn complaint.message).warnAll rest := rfl
      -- the label is read off the job, and a warning leaves the job as it is
      rw [step, ih]
      rfl

@[simp] theorem warnAll_session (complaints : List Complaint) :
    (job.warnAll complaints).session = job.session := by rw [warnAll_eq]; rfl
@[simp] theorem warnAll_data (complaints : List Complaint) :
    (job.warnAll complaints).data = job.data := by rw [warnAll_eq]; rfl
@[simp] theorem warnAll_number (complaints : List Complaint) :
    (job.warnAll complaints).number = job.number := by rw [warnAll_eq]; rfl
@[simp] theorem warnAll_executed (complaints : List Complaint) :
    (job.warnAll complaints).executed = job.executed := by rw [warnAll_eq]; rfl
@[simp] theorem warnAll_store (complaints : List Complaint) :
    (job.warnAll complaints).store = job.store := by rw [warnAll_eq]; rfl
@[simp] theorem warnAll_outcome (complaints : List Complaint) :
    (job.warnAll complaints).outcome = job.outcome := by rw [warnAll_eq]; rfl

/-- The board after warnings: it has been given their lines, and nothing else. -/
theorem warnAll_board (complaints : List Complaint) (job : Job σ) :
    (job.warnAll complaints).host.board
      = (complaints.map (job.warningLine ·.message)).foldl Board.save job.host.board := by
  induction complaints generalizing job with
  | nil => rfl
  | cons complaint rest ih =>
      have step : job.warnAll (complaint :: rest)
          = (job.warn complaint.message).warnAll rest := rfl
      rw [step, ih]
      rfl

/-- Warnings leave the files alone. -/
theorem warnAll_files (complaints : List Complaint) (job : Job σ) :
    (job.warnAll complaints).host.files = job.host.files := by
  induction complaints generalizing job with
  | nil => rfl
  | cons complaint rest ih => exact ih (job.warn complaint.message)

@[simp] theorem statuses_save (board : Board) (line : String) :
    (board.save line).statuses = board.statuses := by
  rw [Board.save]
  split <;> rfl

/-- Lines kept with the job are no status lines. -/
theorem statuses_foldl_save (lines : List String) (board : Board) :
    (lines.foldl Board.save board).statuses = board.statuses := by
  induction lines generalizing board with
  | nil => rfl
  | cons line rest ih =>
      rw [List.foldl_cons, ih]
      exact statuses_save board line

/-- A board that keeps lines has all of them behind its own, and another one has none. -/
theorem jobInfo_foldl_save (lines : List String) (board : Board) :
    (lines.foldl Board.save board).jobInfo
      = board.jobInfo ++ if board.keeps then lines else [] := by
  have htold : lines.foldl Board.save board = board.takeAll (lines.map .line) := by
    rw [Board.takeAll, List.foldl_map]
    rfl
  have hlines : (lines.map Notice.line).filterMap Notice.line? = lines := by
    rw [List.filterMap_map]
    exact List.filterMap_some
  rw [htold, board.takeAll_jobInfo, hlines]

/-! ## Finalizing -/

/-- Writing the summary touches the host alone, and not the board. -/
theorem writeSummary_eq (succeeded : Bool) (job : Job σ) :
    ∃ host : Host, job.writeSummary succeeded = { job with host } ∧
      host.board = job.host.board := by
  rw [writeSummary]
  split
  · exact ⟨job.host, rfl, rfl⟩
  · dsimp only
    split
    · exact ⟨_, rfl, rfl⟩
    · exact ⟨_, rfl, rfl⟩

variable [Session σ]

/-- A session when its job has let go of it: disconnected if it was connected. -/
def letGo (files : Files) (session : σ) : σ :=
  if Session.isConnected session then (Session.disconnect session files).next else session

/-- Letting go of the session touches the session and the host, and not the board. -/
theorem release_eq (job : Job σ) :
    ∃ host : Host,
      job.release = { job with session := job.session.map (letGo job.host.files), host } ∧
      host.board = job.host.board := by
  obtain ⟨_, session, host, _, _, _, _, _, _, _⟩ := job
  cases session with
  | none => exact ⟨host, rfl, rfl⟩
  | some session =>
      simp only [release, letGo, Option.map_some]
      by_cases hc : Session.isConnected session = true
      · simp only [hc, ↓reduceIte]
        -- a disconnect that fails shows in the journal, and the session is let go of all the same
        cases (Session.disconnect session host.files).result with
        | ok => exact ⟨_, rfl, rfl⟩
        | error e => exact ⟨_, rfl, rfl⟩
      · simp only [hc, Bool.false_eq_true, ↓reduceIte]
        exact ⟨host, rfl, rfl⟩

/-- Letting go of a session is one disconnect if it was connected, and else no call at all. -/
theorem calls_letGo (files : Files) (recorded : Recorded σ) :
    (letGo files recorded).calls = recorded.calls ++
      if Session.isConnected recorded.session then
        [.disconnect (Session.disconnect recorded.session files).result]
      else [] := by
  have hsame : Session.isConnected recorded = Session.isConnected recorded.session := rfl
  rw [letGo, hsame]
  by_cases hc : Session.isConnected recorded.session = true
  · rw [if_pos hc, if_pos hc]
    rfl
  · rw [if_neg hc, if_neg hc, List.append_nil]

/-- A job that is over and still holds its session. -/
def ended (succeeded : Bool) (job : Job σ) : Job σ :=
  { job with outcome := some succeeded, current := none }.log .info "Plugin manager finished"

/-- Finalizing a job that is not over: the session goes, and the summary is written then. -/
theorem finalize_pending (succeeded : Bool) (pending : job.isFinalized = false) :
    job.finalize succeeded = (job.ended succeeded).release.writeSummary succeeded :=
  if_neg (by rw [pending]; exact Bool.false_ne_true)

/-- **FINALIZING**: a job that is not over gets its outcome, runs no plugin and has let go of
    its session; apart from the host, where the board stays, nothing else is touched. -/
theorem finalize_eq (succeeded : Bool) (pending : job.isFinalized = false) :
    ∃ host : Host,
      job.finalize succeeded = { job with
        outcome := some succeeded, current := none,
        session := job.session.map (letGo job.host.files), host } ∧
      host.board = job.host.board := by
  obtain ⟨hung, hrelease, hboard⟩ := release_eq (job.ended succeeded)
  obtain ⟨host, hwrite, hboard'⟩ := writeSummary_eq succeeded (job.ended succeeded).release
  refine ⟨host, ?_, ?_⟩
  · rw [finalize_pending succeeded pending, hwrite, hrelease]
    rfl
  · rw [hboard', hrelease]
    exact hboard

end Job

/-! ## What a task keeps -/

namespace Task

variable {α β γ : Type}

/-- A task keeps a view of the job: whatever the task comes to, the view is what it was. -/
def Keeps (view : Job σ → γ) (task : Task σ α) : Prop :=
  ∀ job, view (task job).2.val = view job

/-- Two tasks in a row keep what both keep. -/
theorem Keeps.bind {view : Job σ → γ} {task : Task σ α} {next : α → Task σ β}
    (h : task.Keeps view) (hnext : ∀ a, (next a).Keeps view) : (task >>= next).Keeps view := by
  intro job
  have hmid := h job
  show view (Task.bind task next job).2.val = view job
  rw [Task.bind]
  -- the second task runs on the job that the first one leaves, if that succeeds
  rcases ht : task job with ⟨_ | a, ⟨mid, hreach⟩⟩
  all_goals rw [ht] at hmid
  · exact hmid
  · exact (hnext a mid).trans hmid

/-- What is done over the session keeps every view that does not look at session and host. -/
theorem Keeps.overSession {ε : Type} {view : Job σ → γ}
    (blind : ∀ job session host, view { job with session := some session, host } = view job)
    (wrap : ε → PluginError) (action : LinkM ε σ α) :
    (Task.overSession wrap action).Keeps view := by
  intro job
  rw [Task.overSession]
  split
  · rfl
  · exact blind job _ _

/-- A record goes to the host, so it keeps these views as well. -/
theorem Keeps.log {view : Job σ → γ}
    (blind : ∀ job session host, view { job with session, host } = view job) (level : Level)
    (message : String) : (Task.log level message).Keeps view :=
  fun job => blind job job.session (job.log level message).host

end Task

end Upkeep
