import Upkeep.Proofs.Job.Recorded
import Upkeep.Proofs.Session.Steady

/-! # Alike jobs — the same work, asked for in another way

    A job is asked for its work by an order or by a restriction to some names,
    and it has been told this and that before the work begins.  Two jobs are
    alike behind two pasts if nothing else tells them apart: what they have been
    told since is the same, entry for entry and line for line (`Job.Alike`).

    A plugin body might look at the order or at the restriction.  One that looks
    at neither is `Task.Blind`: on alike jobs it comes to the same and leaves
    alike jobs.  It may put another order or restriction into the job, which does
    not make the jobs less alike. -/

namespace Upkeep

variable {σ α β : Type}

namespace Job

/-- The job behind a past, asked for its work by another order and another restriction. -/
def behind (past : Past) (order : Option (List String)) (nameFilter : List String)
    (job : Job σ) : Job σ :=
  { job with
    assignment := { job.assignment with order, nameFilter }
    host := job.host.behind past }

/-! ## What happens to a job behind a past -/

section Behind

variable (past : Past) (order : Option (List String)) (nameFilter : List String) (job : Job σ)

theorem behind_onHost {f : Host → Host}
    (h : ∀ past host, f (Host.behind past host) = (f host).behind past) :
    (job.behind past order nameFilter).onHost f
      = (job.onHost f).behind past order nameFilter :=
  congrArg ({ job.behind past order nameFilter with host := · }) (h past job.host)

theorem behind_log (level : Level) (message : String) :
    (job.behind past order nameFilter).log level message
      = (job.log level message).behind past order nameFilter :=
  behind_onHost past order nameFilter job fun past host => host.behind_log past level _

theorem behind_warn (message : String) :
    (job.behind past order nameFilter).warn message
      = (job.warn message).behind past order nameFilter := by
  refine behind_onHost past order nameFilter job ?_
  intro past host
  rw [Host.behind_saveJobInfo, Host.behind_log]

theorem behind_logError (message : String) :
    (job.behind past order nameFilter).logError message
      = (job.logError message).behind past order nameFilter := by
  refine behind_onHost past order nameFilter job ?_
  intro past host
  rw [Host.behind_saveJobInfo, Host.behind_log]

theorem behind_postStatus (message : String) :
    (job.behind past order nameFilter).postStatus message
      = (job.postStatus message).behind past order nameFilter :=
  behind_onHost past order nameFilter job fun past host => host.behind_postStatus past message

theorem behind_save (key : String) (value : Data) :
    (job.behind past order nameFilter).save key value
      = (job.save key value).behind past order nameFilter :=
  behind_log past order nameFilter
    { job with store := Fields.insert key ⟨value, job.host.now⟩ job.store } _ _

theorem behind_load? (key : String) :
    (job.behind past order nameFilter).load? key
      = ((job.load? key).1, (job.load? key).2.behind past order nameFilter) := by
  have hstore : (job.behind past order nameFilter).store = job.store := rfl
  simp only [load?, hstore]
  split
  · rfl
  · exact congrArg (Prod.mk _) (behind_log past order nameFilter job .info _)

theorem behind_saveFile (name text : String) :
    (job.behind past order nameFilter).saveFile name text
      = ((job.saveFile name text).1,
        (job.saveFile name text).2.behind past order nameFilter) := by
  have hdirectory : (job.behind past order nameFilter).assignment.logDir
      = job.assignment.logDir := rfl
  have hfiles : (job.behind past order nameFilter).host.files = job.host.files := rfl
  simp only [saveFile, hdirectory, hfiles]
  split
  · rfl
  · next made _ =>
    split
    · rfl
    · next written _ =>
      exact congrArg (Prod.mk _) (behind_log past order nameFilter
        ((job.onHost ({ · with files := made })).onHost ({ · with files := written })) .info _)

theorem behind_after (session : σ) (outcome : Outcome σ α) :
    (job.behind past order nameFilter).after session outcome
      = (job.after session outcome).behind past order nameFilter :=
  congrArg (fun link : Link σ => { job.behind past order nameFilter with
      session := some link.session, host := link.host })
    (Link.behind_after past ⟨session, job.host⟩ outcome)

/-- The summary does not tell how the work was asked for, nor what was told. -/
theorem behind_writeSummary (succeeded : Bool) :
    (job.behind past order nameFilter).writeSummary succeeded
      = (job.writeSummary succeeded).behind past order nameFilter := by
  have hdirectory : (job.behind past order nameFilter).assignment.runDir
      = job.assignment.runDir := rfl
  have hsummary : (job.behind past order nameFilter).summary succeeded
      = job.summary succeeded := rfl
  have hfiles : (job.behind past order nameFilter).host.files = job.host.files := rfl
  simp only [writeSummary, hdirectory, hsummary, hfiles]
  split
  · rfl
  · split
    · rfl
    · exact behind_onHost past order nameFilter job fun past host => host.behind_log past .warn _

variable [Session σ]

theorem behind_release :
    (job.behind past order nameFilter).release = job.release.behind past order nameFilter := by
  have hsession : (job.behind past order nameFilter).session = job.session := rfl
  have hfiles : (job.behind past order nameFilter).host.files = job.host.files := rfl
  simp only [release, hsession, hfiles]
  split
  · rfl
  · split
    · split
      · exact behind_after past order nameFilter job _ _
      · rw [behind_after]
        exact behind_onHost past order nameFilter _ fun past host => host.behind_log past .warn _
    · rfl

/-- **FINALIZING** a job does not depend on its past, nor on how its work was asked for. -/
theorem behind_finalize (succeeded : Bool) :
    (job.behind past order nameFilter).finalize succeeded
      = (job.finalize succeeded).behind past order nameFilter := by
  have hfinalized : (job.behind past order nameFilter).isFinalized = job.isFinalized := rfl
  rw [finalize, finalize, hfinalized]
  split
  · rfl
  · show ((behind past order nameFilter
        { job with outcome := some succeeded, current := none }).log .info
          "Plugin manager finished").release.writeSummary succeeded = _
    rw [behind_log, behind_release, behind_writeSummary]

end Behind

/-! ## Alike jobs -/

/-- Two jobs are one job behind two pasts; each may be asked for its work in its own way. -/
inductive Alike (first second : Past) : Job σ → Job σ → Prop where
  | intro (job : Job σ) (order order' : Option (List String)) (nameFilter nameFilter' :
      List String) :
      Alike first second (job.behind first order nameFilter) (job.behind second order' nameFilter')

namespace Alike

variable {first second : Past} {job other : Job σ}

theorem session (h : Alike first second job other) : other.session = job.session := by
  cases h; rfl
theorem number (h : Alike first second job other) : other.number = job.number := by
  cases h; rfl
theorem executed (h : Alike first second job other) : other.executed = job.executed := by
  cases h; rfl
theorem store (h : Alike first second job other) : other.store = job.store := by
  cases h; rfl
theorem pluginData? (h : Alike first second job other) :
    other.pluginData? = job.pluginData? := by
  cases h; rfl

/-- Alike jobs have the same calls on their records. -/
theorem calls {job other : Job (Recorded σ)} (h : Alike first second job other) :
    other.calls = job.calls := by
  rw [Job.calls, Job.calls, h.session]

/-- What goes past any past leaves alike jobs alike. -/
theorem map (h : Alike first second job other) {f : Job σ → Job σ}
    (hf : ∀ past order nameFilter job,
      f (Job.behind past order nameFilter job) = (f job).behind past order nameFilter) :
    Alike first second (f job) (f other) := by
  obtain ⟨shared, order, order', nameFilter, nameFilter'⟩ := h
  rw [hf, hf]
  exact .intro (f shared) order order' nameFilter nameFilter'

end Alike

/-! ## Pasts -/

/-- What a job has been told so far. -/
def past (job : Job σ) : Past := ⟨job.host.journal, job.host.board.jobInfo⟩

/-- Behind their pasts, alike jobs keep the same lines. -/
theorem Alike.jobInfo {first second : Past} {job other : Job σ}
    (h : Alike first second job other) :
    ∃ lines, job.past.jobInfo = first.jobInfo ++ lines ∧
      other.past.jobInfo = second.jobInfo ++ lines := by
  obtain ⟨shared, order, order', nameFilter, nameFilter'⟩ := h
  exact ⟨shared.host.board.jobInfo, rfl, rfl⟩

/-- The job that has been told nothing so far, and does not say how it asks for its work. -/
def plain (job : Job σ) : Job σ :=
  { job with
    assignment := { job.assignment with order := none, nameFilter := [] }
    host := { job.host with journal := [], board := { job.host.board with jobInfo := [] } } }

/-- Jobs that differ only in their pasts and in how their work is asked for are alike behind
    their pasts. -/
theorem alike_of_plain {job other : Job σ} (h : other.plain = job.plain) :
    Alike job.past other.past job other := by
  have hbehind (job : Job σ) : job = job.plain.behind job.past job.assignment.order
      job.assignment.nameFilter := by
    simp only [behind, plain, Host.behind, past, List.append_nil]
  have halike : Alike job.past other.past
      (job.plain.behind job.past job.assignment.order job.assignment.nameFilter)
      (job.plain.behind other.past other.assignment.order other.assignment.nameFilter) :=
    .intro job.plain _ _ _ _
  rw [← hbehind job, ← h, ← hbehind other] at halike
  exact halike

theorem plain_log (level : Level) (message : String) (job : Job σ) :
    (job.log level message).plain = job.plain := rfl

theorem past_log_jobInfo (level : Level) (message : String) (job : Job σ) :
    (job.log level message).past.jobInfo = job.past.jobInfo := rfl

/-- Warnings are a matter of the past. -/
theorem plain_warnAll (complaints : List Complaint) (job : Job σ) :
    (job.warnAll complaints).plain = job.plain := by
  induction complaints generalizing job with
  | nil => rfl
  | cons complaint rest ih =>
      have hwarn : (job.warn complaint.message).plain = job.plain := by
        simp only [plain, warn, onHost, Host.log, Host.saveJobInfo, Board.save]
        split
        · rfl
        · rfl
      exact (ih (job.warn complaint.message)).trans hwarn

end Job

/-! ## Blind tasks -/

namespace Task

/-- A task that looks neither at the order nor at the restriction to some names: on alike jobs it
    comes to the same, does the same to both, and tells both the same. The journal and the board
    are there to be written, so it does not look back at what was told either. -/
def Blind (task : Task σ α) : Prop :=
  ∀ first second job other, Job.Alike first second job other →
    (task.comes other).1 = (task.comes job).1 ∧
      Job.Alike first second (task.comes job).2 (task.comes other).2

namespace Blind

/-- A task that goes past any past, and past any way to ask for the work. -/
theorem of_behind {task : Task σ α}
    (h : ∀ past order nameFilter job, task.comes (Job.behind past order nameFilter job)
      = ((task.comes job).1, (task.comes job).2.behind past order nameFilter)) :
    task.Blind := by
  rintro first second _ _ ⟨shared, order, order', nameFilter, nameFilter'⟩
  rw [h, h]
  exact ⟨rfl, .intro _ order order' nameFilter nameFilter'⟩

protected theorem pure (a : α) : (pure a : Task σ α).Blind := of_behind fun _ _ _ _ => rfl

protected theorem fail (error : PluginError) : (Task.fail error : Task σ α).Blind :=
  of_behind fun _ _ _ _ => rfl

protected theorem failWith (message : String) : (Task.failWith message : Task σ α).Blind :=
  of_behind fun past order nameFilter job =>
    congrArg (Prod.mk _) (job.behind_logError past order nameFilter message)

protected theorem onHost {f : Host → Host}
    (h : ∀ past host, f (Host.behind past host) = (f host).behind past) :
    (Task.onHost (σ := σ) f).Blind :=
  of_behind fun past order nameFilter job =>
    congrArg (Prod.mk _) (job.behind_onHost past order nameFilter h)

protected theorem log (level : Level) (message : String) :
    (Task.log (σ := σ) level message).Blind :=
  of_behind fun past order nameFilter job =>
    congrArg (Prod.mk _) (job.behind_log past order nameFilter level message)

protected theorem warn (message : String) : (Task.warn (σ := σ) message).Blind :=
  of_behind fun past order nameFilter job =>
    congrArg (Prod.mk _) (job.behind_warn past order nameFilter message)

protected theorem postStatus (message : String) : (Task.postStatus (σ := σ) message).Blind :=
  of_behind fun past order nameFilter job =>
    congrArg (Prod.mk _) (job.behind_postStatus past order nameFilter message)

protected theorem save (key : String) (value : Data) : (Task.save (σ := σ) key value).Blind :=
  of_behind fun past order nameFilter job =>
    congrArg (Prod.mk _) (job.behind_save past order nameFilter key value)

protected theorem load? (key : String) : (Task.load? (σ := σ) key).Blind := by
  refine of_behind ?_
  intro past order nameFilter job
  obtain ⟨hfound, hleft⟩ := Prod.ext_iff.mp (job.behind_load? past order nameFilter key)
  exact Prod.ext (congrArg Except.ok hfound) hleft

protected theorem saveFile (name text : String) : (Task.saveFile (σ := σ) name text).Blind := by
  refine of_behind ?_
  intro past order nameFilter job
  obtain ⟨hpath, hleft⟩ := Prod.ext_iff.mp (job.behind_saveFile past order nameFilter name text)
  exact Prod.ext (congrArg (Except.mapError PluginError.io) hpath) hleft

protected theorem onFiles (f : Files → Except IoError Files) :
    (Task.onFiles (σ := σ) f).Blind := by
  refine of_behind ?_
  intro past order nameFilter job
  have hfiles : (job.behind past order nameFilter).host.files = job.host.files := rfl
  simp only [comes, Task.onFiles, hfiles]
  cases f job.host.files with
  | ok files => rfl
  | error error => rfl

protected theorem attempt {task : Task σ α} (h : task.Blind) : task.attempt.Blind := by
  intro first second job other halike
  obtain ⟨hresult, hleft⟩ := h first second job other halike
  exact ⟨congrArg Except.ok hresult, hleft⟩

/-- Two blind tasks in a row are blind. -/
protected theorem bind {task : Task σ α} {next : α → Task σ β} (h : task.Blind)
    (hnext : ∀ a, (next a).Blind) : (task >>= next).Blind := by
  intro first second job other halike
  obtain ⟨hresult, hleft⟩ := h first second job other halike
  rw [comes_bind, comes_bind]
  rcases hjob : task.comes job with ⟨error | a, mid⟩
  all_goals
    rcases hother : task.comes other with ⟨result, mid'⟩
    rw [hjob, hother] at hresult hleft
    obtain rfl := hresult
  · exact ⟨rfl, hleft⟩
  · exact hnext a first second mid mid' hleft

/-- Something that is done under a condition, before the rest. -/
theorem guarded {c : Prop} [Decidable c] {task : Task σ Unit} {next : Unit → Task σ α}
    (h : task.Blind) (hnext : ∀ a, (next a).Blind) :
    (if c then task >>= next else next ()).Blind := by
  split
  · exact .bind h hnext
  · exact hnext ()

/-- A blind task for each item of a list. -/
protected theorem forM {ι : Type} {items : List ι} {task : ι → Task σ Unit}
    (h : ∀ item, (task item).Blind) : (items.forM task).Blind := by
  induction items with
  | nil => exact .pure ()
  | cons item rest ih => exact .bind (h item) fun _ => ih

/-- Looking at what all alike jobs have in common. -/
protected theorem job {next : Job σ → Task σ α}
    (same : ∀ past order nameFilter job, next (Job.behind past order nameFilter job) = next job)
    (h : ∀ job, (next job).Blind) : (Task.job >>= next).Blind := by
  rintro first second _ _ ⟨shared, order, order', nameFilter, nameFilter'⟩
  have hlook (job : Job σ) : (Task.job >>= next).comes job = (next job).comes job := comes_bind ..
  rw [hlook, hlook, same, same]
  exact h shared first second _ _ (.intro shared order order' nameFilter nameFilter')

/-- What is done over the session. -/
protected theorem overSession {ε : Type} (wrap : ε → PluginError) {action : LinkM ε σ α}
    (h : Steady action) : (Task.overSession wrap action).Blind := by
  refine of_behind ?_
  intro past order nameFilter job
  have hsame : (job.behind past order nameFilter).session = job.session := rfl
  cases hsession : job.session with
  | none => simp only [comes, Task.overSession, hsame, hsession]
  | some session =>
      have hlink : action ⟨session, (job.behind past order nameFilter).host⟩ = _ :=
        h past ⟨session, job.host⟩
      rw [comes_overSession wrap action (hsame.trans hsession),
        comes_overSession wrap action hsession, hlink]
      rfl

end Blind

end Task

end Upkeep
