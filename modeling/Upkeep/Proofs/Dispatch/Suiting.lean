import Upkeep.Proofs.Dispatch.Run
import Upkeep.Proofs.Job.Recorded
import Upkeep.Proofs.Session.Suited

/-! # Suiting — what becomes of a job before a body is started

    Before a plugin is started its session is made to suit it, by one call at
    most.  The call decides all that becomes of the job (`reconcile_comes`): the
    result is that of the call, the session is the one it leaves, and the files
    are those it leaves.  The dispatcher adds a line to the journal, and writes
    no file of its own. -/

namespace Upkeep

open Session (suit)

variable {σ : Type} [Session σ]

/-- The files when the session has been made to suit the need. -/
def Job.suitedFiles (needed : Bool) (job : Job σ) : Files :=
  match job.session with
  | none => job.host.files
  | some session => (suit needed session job.host.files).files

namespace Dispatch

/-- Without a session nothing can be done for a plugin that needs one. -/
def suitedResult (needed : Bool) (job : Job σ) : Except PluginError Unit :=
  match job.session with
  | none => if needed then .error (.session .notConnected) else .ok ()
  | some session => (suit needed session job.host.files).result.mapError .session

/-- **SUITING**: making the session suit comes to what the call comes to, and changes session and
    host alone. -/
theorem reconcile_comes (needed : Bool) (job : Job σ) :
    ∃ host, (reconcile needed).comes job = (suitedResult needed job,
        { job with
          session := job.session.map (fun session => (suit needed session job.host.files).next)
          host }) ∧
      host.files = job.suitedFiles needed := by
  have hlook (next : Job σ → Task σ Unit) : (Task.job >>= next).comes job = (next job).comes job :=
    Task.comes_bind ..
  rw [reconcile, hlook, suitedResult, Job.suitedFiles]
  obtain ⟨assignment, _ | session, host, data, started, current, number, executed, store, outcome⟩
    := job
  · cases needed with
    | true => exact ⟨host, rfl, rfl⟩
    | false => exact ⟨host, rfl, rfl⟩
  · -- the journal is told first, and the call is made on the same session and files
    simp only [Option.map_some, suit]
    cases Session.isConnected session with
    | true =>
        cases needed with
        | true => exact ⟨host, rfl, rfl⟩
        | false => exact ⟨_, rfl, rfl⟩
    | false =>
        cases needed with
        | true => exact ⟨_, rfl, rfl⟩
        | false => exact ⟨host, rfl, rfl⟩

end Dispatch

end Upkeep
