import Upkeep.Proofs.Dispatch.Course
import Upkeep.Proofs.Job.Summary
import Upkeep.Session.Perturbed
import Upkeep.Session.Replay

/-! # Conclusions — what is left of a dispatch

    A dispatch has many ways to fail, and all of them end in one place.  If no
    body has finalized the job, the job is not over up to there: the course of
    the dispatch has no deed that finalizes (`working_pending`).  So it is the
    dispatcher that records the outcome, lets go of the session and writes the
    summary, and result, outcome and summary tell the same (`Concluded`).  How
    the session answers when it is let go of decides none of them. -/

namespace Upkeep.Dispatch

variable {σ : Type} [Session σ] {job : Job σ} {registry : Registry σ}

/-- **PENDING**: if no body finalizes, the job is not over when its dispatch is to be
    concluded. -/
theorem working_pending (dispatcher : Dispatcher) (pending : job.outcome = none)
    (bodies : ∀ entry ∈ registry, entry.plugin.task.Keeps Job.outcome) :
    (dispatcher.working registry job).2.outcome = none := by
  have hbodies : ∀ entry ∈ registry, entry.plugin.task.Does (· = .work) :=
    fun entry hentry => .of_keeps (bodies entry hentry) rfl
  obtain ⟨events, hworks⟩ := dispatcher.exists_works registry job hbodies
  have hdeeds : ∀ event ∈ events, event.deed.outcome? = none := by
    intro event hevent
    rcases hworks.deeds event hevent with hwork | hown
    · rw [hwork]
      rfl
    · exact hown.outcome?_eq
  have hnone : outcomes events = [] := List.filterMap_eq_nil_iff.mpr hdeeds
  rw [hworks.course.outcome, pending, hnone]
  rfl

/-- What a dispatch comes to, told by what it had come to when it was to be concluded. -/
structure Concluded (working : Except DispatchError Unit × Job σ)
    (result : Except DispatchError (List String)) (final : Job σ) : Prop where
  /-- The dispatch succeeds or fails as it was going to. -/
  comes : result = working.1.map fun _ => working.2.executed
  finalized : final.isFinalized = true
  succeeded : final.succeeded = result.isOk
  /-- Concluding adds nothing to the account, and a report tells the account. -/
  executed : final.executed = working.2.executed
  reported : ∀ names, result = .ok names → names = final.executed
  idle : final.current = none
  /-- A session that is connected is disconnected once, and another one is left alone. -/
  session : final.session = working.2.session.map (Job.letGo working.2.host.files)
  /-- If the summary can be written when the session is gone, the file has a text that parses to
      it, and it tells the outcome and the account. -/
  summary : ∀ directory opened, working.2.assignment.runDir = some directory →
    working.2.freed.openForWriting (joinPath directory "job.json") = .ok opened →
    ∃ summary, final.host.files.readText (joinPath directory "job.json")
        = .ok (Json.render summary) ∧
      Json.parse? (Json.render summary) = some summary ∧
      summary.field? "success" = some (.bool final.succeeded) ∧
      summary.field? "executed" = some (.texts final.executed)

/-- **CONCLUDING**: whatever a job that is not over has come to, finalizing it by that concludes
    it. -/
theorem concluded_finish {working : Except DispatchError Unit × Job σ}
    (pending : working.2.outcome = none) :
    Concluded working (finish working).1 (finish working).2 := by
  obtain ⟨result, job⟩ := working
  have hpending : job.isFinalized = false := by rw [Job.isFinalized, pending]; rfl
  obtain ⟨host, hfinal, -⟩ := Job.finalize_eq result.isOk hpending
  have hsummary := Job.read_finalize result.isOk hpending
  rw [hfinal] at hsummary
  cases result with
  | ok =>
      simp only [finish]
      rw [show job.finalize true = _ from hfinal]
      exact ⟨rfl, rfl, rfl, rfl, fun names hnames => (Except.ok.inj hnames).symm, rfl, rfl,
        hsummary⟩
  | error error =>
      simp only [finish]
      rw [show job.finalize false = _ from hfinal]
      exact ⟨rfl, rfl, rfl, rfl, (fun names hnames => by cases hnames), rfl, rfl, hsummary⟩

/-- **CONCLUSION**: a dispatch of a job that is not over, by bodies that do not finalize it,
    leaves a job that is over, whose outcome and summary tell the result, and whose session has
    been given one disconnect if it was connected, and no further call otherwise. -/
theorem dispatch_concludes (dispatcher : Dispatcher) (registry : Registry σ) (job : Job σ)
    (pending : job.outcome = none)
    (bodies : ∀ entry ∈ registry, entry.plugin.task.Keeps Job.outcome) :
    Concluded (dispatcher.working registry job) (dispatcher.dispatch registry job).1
        (dispatcher.dispatch registry job).2 ∧
      ∀ (files : Files) (recorded : Recorded σ),
        (Job.letGo files recorded).calls = recorded.calls ++
          if Session.isConnected recorded.session then
            [.disconnect (Session.disconnect recorded.session files).result]
          else [] := by
  refine ⟨?_, Job.calls_letGo⟩
  rw [dispatcher.dispatch_eq]
  exact concluded_finish (working_pending dispatcher pending bodies)

/-- A plugin that checks and one that fails. -/
def checkAndFail : Registry (Perturbed Replay) := [
  ⟨"site.check", { manifest := (Manifest.named "check").forPhases ["Check"], task := pure () }⟩,
  ⟨"site.fail", { manifest := (Manifest.named "fail").forPhases ["Check"],
                  task := Task.failWith "node down" }⟩]

/-- A session that is lost when it is disconnected. -/
def unplugged : Perturbed Replay where
  inner := {}
  faults := [⟨.disconnect, 1, .connectionLost⟩]

/-- A directory with nothing in it. -/
def emptyRun : Files := { root := "/", nodes := [(["run"], .directory)] }

/-- A summary can be written there. -/
theorem emptyRun_opens :
    emptyRun.openForWriting (joinPath "run" "job.json") = .ok (["run", "job.json"], [], false) := by
  have hopen : "run".endsWith "/" = false := by
    rw [String.endsWith_eq_endsWith_toSlice]
    exact String.Slice.endsWith_string_eq_false_iff.mpr (by decide)
  have hpath : joinPath "run" "job.json" = "run/job.json" := by simp [joinPath, hopen]
  have hnames : emptyRun.walk [] (pathNames "run/job.json") = .ok ["run", "job.json"] := rfl
  have hresolve : emptyRun.resolve "run/job.json" = .ok ["run", "job.json"] := by
    rw [Files.resolve, hnames, show emptyRun.root = "/" from rfl]
    simp
  rw [hpath, Files.openForWriting, hresolve]
  rfl

/-- A job over this session, with the directory for its summary. -/
def summarizing : Job (Perturbed Replay) where
  assignment := { hostname := "router", logDir := "log", phase := some "Check",
                  runDir := some "run" }
  session := some unplugged
  host := { files := emptyRun }

/-- The dispatch fails, the disconnect fails as well, and the summary tells of the check. -/
theorem dispatch_concludes_unplugged :
    summarizing.outcome = none ∧
      (∀ entry ∈ checkAndFail, entry.plugin.task.Keeps Job.outcome) ∧
      (Session.disconnect unplugged emptyRun).result = .error .connectionLost ∧
      ∃ error final summary,
        Dispatcher.own.dispatch checkAndFail summarizing = (.error error, final) ∧
        final.host.files.readText (joinPath "run" "job.json") = .ok (Json.render summary) ∧
        Json.parse? (Json.render summary) = some summary ∧
        summary.field? "success" = some (.bool false) ∧
        summary.field? "executed" = some (.texts ["check"]) := by
  have bodies : ∀ entry ∈ checkAndFail, entry.plugin.task.Keeps Job.outcome := by
    intro entry hentry
    simp only [checkAndFail, List.mem_cons, List.not_mem_nil, or_false] at hentry
    rcases hentry with rfl | rfl
    · exact fun _ => rfl
    · exact fun _ => rfl
  obtain ⟨hconcluded, -⟩ := dispatch_concludes .own checkAndFail summarizing rfl bodies
  have hsession : (Dispatcher.own.working checkAndFail summarizing).2.session = some unplugged :=
    rfl
  have hfreed : (Dispatcher.own.working checkAndFail summarizing).2.freed = emptyRun := by
    rw [Job.freed, hsession]
    rfl
  obtain ⟨summary, hread, hparse, hsuccess, hexecuted⟩ :=
    hconcluded.summary "run" (["run", "job.json"], [], false) rfl (by rw [hfreed, emptyRun_opens])
  have hresult : (Dispatcher.own.dispatch checkAndFail summarizing).1
      = .error (.plugin "fail" (.fatal "node down")) := by
    rw [hconcluded.comes]
    rfl
  rw [hconcluded.succeeded, hresult] at hsuccess
  rw [hconcluded.executed] at hexecuted
  exact ⟨rfl, bodies, rfl, _, _, summary, Prod.ext hresult rfl, hread, hparse, hsuccess,
    hexecuted⟩

end Upkeep.Dispatch
