import Upkeep.Proofs.Data.Json
import Upkeep.Proofs.Job.Account
import Upkeep.Proofs.Host.Files

/-! # Summaries — what is on file when a job is over

    A job that is finalized lets go of its session and writes its summary then.
    The file tree in between is that which a disconnect leaves (`Job.freed`): a
    session may write as well.  If the summary can be written there, the file has
    a text afterwards that parses to the summary: nothing that it says is lost
    on the way (`plain_summary`). -/

namespace Upkeep

namespace Job

variable {σ : Type} {job : Job σ}

/-- The summary has the outcome. -/
theorem summary_success (job : Job σ) (succeeded : Bool) :
    (job.summary succeeded).field? "success" = some (.bool succeeded) := by
  simp [summary, Data.ofFields, Data.field?, Fields.ofList, Fields.get?_insert]

/-- The summary has the names on the account. -/
theorem summary_executed (job : Job σ) (succeeded : Bool) :
    (job.summary succeeded).field? "executed" = some (.texts job.executed) := by
  simp [summary, Data.ofFields, Data.field?, Fields.ofList, Fields.get?_insert]

/-- A summary is a value that JSON text can say. -/
theorem plain_summary (job : Job σ) (succeeded : Bool) : Json.Plain 127 (job.summary succeeded) := by
  refine Json.plain_ofFields ?_
  simp only [List.forall_mem_cons]
  refine ⟨.text _ _, Json.plain_textOrNull _ _, Json.plain_textOrNull _ _,
    Json.plain_textOrNull _ _, .bool _ _, Json.plain_texts _ _, .text _ _, .text _ _, ?_⟩
  exact List.forall_mem_nil _

/-- A job that finds some files leaves them as they are, or with its summary written. -/
def SummarizedAt (job : Job σ) (found left : Files) : Prop :=
  left = found ∨ ∃ directory summary, job.assignment.runDir = some directory ∧
    found.write (joinPath directory "job.json") (encodeUtf8 (Json.render summary).toList) = .ok left

/-- Writing the summary writes one file at most. -/
theorem writeSummary_files (succeeded : Bool) (job : Job σ) :
    job.SummarizedAt job.host.files (job.writeSummary succeeded).host.files := by
  rw [writeSummary]
  cases hdirectory : job.assignment.runDir with
  | none => exact Or.inl rfl
  | some directory =>
      dsimp only
      split
      · next hwritten => exact Or.inr ⟨directory, _, hdirectory, hwritten⟩
      · exact Or.inl rfl

/-- A summary that can be written can be read. -/
theorem readText_writeSummary {directory : String} {opened : List String × Bytes × Bool}
    (succeeded : Bool) (summarized : job.assignment.runDir = some directory)
    (writable : job.host.files.openForWriting (joinPath directory "job.json") = .ok opened) :
    (job.writeSummary succeeded).host.files.readText (joinPath directory "job.json")
      = .ok (Json.render (job.summary succeeded)) := by
  obtain ⟨written, hwritten⟩ := Files.write_of_open
    (encodeUtf8 (Json.render (job.summary succeeded)).toList) writable
  have hfiles : (job.writeSummary succeeded).host.files = written := by
    simp only [writeSummary, summarized, hwritten]
    rfl
  rw [hfiles]
  exact Files.readText_of_read (Files.read_write hwritten)

variable [Session σ]

/-- The files when a job has let go of its session. -/
def freed (job : Job σ) : Files :=
  match job.session with
  | none => job.host.files
  | some session =>
    if Session.isConnected session then (Session.disconnect session job.host.files).files
    else job.host.files

/-- Letting go of the session leaves these files. -/
theorem release_files (job : Job σ) : job.release.host.files = job.freed := by
  rw [release, freed]
  cases job.session with
  | none => rfl
  | some session =>
      dsimp only
      split
      · cases (Session.disconnect session job.host.files).result with
        | ok => rfl
        | error error => rfl
      · rfl

/-- A job that is over and has let go of its session is asked to do what it was. -/
theorem ended_assignment (succeeded : Bool) (job : Job σ) :
    (job.ended succeeded).release.assignment = job.assignment := by
  obtain ⟨host, hrelease, -⟩ := release_eq (job.ended succeeded)
  rw [hrelease]
  rfl

/-- Its files are those that the session leaves. -/
theorem ended_files (succeeded : Bool) (job : Job σ) :
    (job.ended succeeded).release.host.files = job.freed := release_files _

/-- Finalizing a job writes one file at most, and that when the session is gone. -/
theorem finalize_files (succeeded : Bool) (pending : job.isFinalized = false) :
    job.SummarizedAt job.freed (job.finalize succeeded).host.files := by
  have hwrite := writeSummary_files succeeded (job.ended succeeded).release
  rw [SummarizedAt, ended_assignment, ended_files] at hwrite
  rw [finalize_pending succeeded pending]
  exact hwrite

/-- **SUMMARY**: a job that is finalized for the first time has written what it says of itself, if
    that can be written once the session is gone, whether or not the session has gone well. -/
theorem read_finalize (succeeded : Bool) (pending : job.isFinalized = false) (directory : String)
    (opened : List String × Bytes × Bool)
    (summarized : job.assignment.runDir = some directory)
    (writable : job.freed.openForWriting (joinPath directory "job.json") = .ok opened) :
    ∃ summary, (job.finalize succeeded).host.files.readText (joinPath directory "job.json")
        = .ok (Json.render summary) ∧
      Json.parse? (Json.render summary) = some summary ∧
      summary.field? "success" = some (.bool succeeded) ∧
      summary.field? "executed" = some (.texts (job.finalize succeeded).executed) := by
  rw [finalize_pending succeeded pending]
  refine ⟨(job.ended succeeded).release.summary succeeded, ?_, ?_, summary_success _ _, ?_⟩
  · exact readText_writeSummary succeeded (by rw [ended_assignment]; exact summarized)
      (by rw [ended_files]; exact writable)
  · exact Json.parse?_render (plain_summary _ succeeded)
  · obtain ⟨_, hwrite, -⟩ := writeSummary_eq succeeded (job.ended succeeded).release
    rw [summary_executed, hwrite]

end Job

end Upkeep
