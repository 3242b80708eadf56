import Upkeep.Proofs.Job.Account
import Upkeep.Proofs.Session.Recorded

/-! # Recorded jobs — what a task asks of its session

    A job over a recorded session is a job like any other, and a task that is
    written for every kind of session runs on it.  The lemmas of recorded
    sessions carry over: a recorded task comes to the same as the bare one
    (`Task.Erases`), and `Task.Emits` says which calls it adds to the record.

    A task may look at what its job is asked to do at any time, so the second
    relation is for one assignment, and says that it stays. -/

namespace Upkeep

variable {σ α β : Type}

namespace Job

/-- The job with an empty record beside its session. -/
def recording (job : Job σ) : Job (Recorded σ) :=
  { job with session := job.session.map fun session => ⟨session, []⟩ }

/-- The job without the record. -/
def erased (job : Job (Recorded σ)) : Job σ := { job with session := job.session.map (·.session) }

/-- Recording starts from the same job. -/
@[simp] theorem erased_recording (job : Job σ) : job.recording.erased = job := by
  obtain ⟨_, session, _, _, _, _, _, _, _, _⟩ := job
  cases session with
  | none => rfl
  | some session => rfl

/-- The calls on the record. -/
def calls (job : Job (Recorded σ)) : List Call :=
  match job.session with
  | none => []
  | some recorded => recorded.calls

/-- Nothing is on the record at first. -/
@[simp] theorem calls_recording (job : Job σ) : job.recording.calls = [] := by
  obtain ⟨_, session, _, _, _, _, _, _, _, _⟩ := job
  cases session with
  | none => rfl
  | some session => rfl

/-- A job that is asked to do something and has a session with some calls on the record. -/
structure Holds (job : Job (Recorded σ)) (assignment : Assignment) (calls : List Call) : Prop where
  assignment : job.assignment = assignment
  session : ∃ recorded, job.session = some recorded ∧ recorded.calls = calls

theorem Holds.calls_eq {job : Job (Recorded σ)} {assignment : Assignment} {calls : List Call}
    (h : job.Holds assignment calls) : job.calls = calls := by
  obtain ⟨recorded, hsession, hcalls⟩ := h.session
  rw [Job.calls, hsession]
  exact hcalls

end Job

namespace Task

/-- What a task comes to: its result, and the job that it leaves. -/
def comes (task : Task σ α) (job : Job σ) : Except PluginError α × Job σ :=
  ((task job).1, (task job).2.val)

/-- Two tasks in a row: the second one runs if the first one succeeds. -/
theorem comes_bind (task : Task σ α) (next : α → Task σ β) (job : Job σ) :
    (task >>= next).comes job = match task.comes job with
      | (.ok a, mid) => (next a).comes mid
      | (.error error, mid) => (.error error, mid) := by
  show ((Task.bind task next job).1, (Task.bind task next job).2.val) = _
  rw [Task.bind, comes]
  rcases task job with ⟨_ | a, ⟨mid, hreach⟩⟩
  · rfl
  · rfl

/-- What is done over the session comes to what it comes to over the link. -/
theorem comes_overSession {ε : Type} (wrap : ε → PluginError) (action : LinkM ε σ α)
    {job : Job σ} {session : σ} (held : job.session = some session) :
    (overSession wrap action).comes job = ((action ⟨session, job.host⟩).1.mapError wrap,
      { job with session := some (action ⟨session, job.host⟩).2.session,
                 host := (action ⟨session, job.host⟩).2.host }) := by
  rw [comes, overSession, held]
  rfl

/-! ## Recording changes nothing -/

/-- Over a recorded session a task comes to what another one comes to over the bare session, and
    leaves the same job but for the record. -/
def Erases (recorded : Task (Recorded σ) α) (bare : Task σ α) : Prop :=
  ∀ job, bare.comes job.erased = ((recorded.comes job).1, (recorded.comes job).2.erased)

namespace Erases

protected theorem pure (a : α) : Erases (σ := σ) (pure a) (pure a) := fun _ => rfl

protected theorem fail (error : PluginError) :
    Erases (σ := σ) (α := α) (Task.fail error) (Task.fail error) := fun _ => rfl

protected theorem failWith (message : String) :
    Erases (σ := σ) (α := α) (Task.failWith message) (Task.failWith message) := fun _ => rfl

protected theorem onHost (f : Host → Host) :
    Erases (σ := σ) (Task.onHost f) (Task.onHost f) := fun _ => rfl

protected theorem log (level : Level) (message : String) :
    Erases (σ := σ) (Task.log level message) (Task.log level message) := fun _ => rfl

protected theorem warn (message : String) :
    Erases (σ := σ) (Task.warn message) (Task.warn message) := fun _ => rfl

protected theorem postStatus (message : String) :
    Erases (σ := σ) (Task.postStatus message) (Task.postStatus message) := fun _ => rfl

protected theorem attempt {recorded : Task (Recorded σ) α} {bare : Task σ α}
    (h : Erases recorded bare) : Erases recorded.attempt bare.attempt := by
  intro job
  have hjob := Prod.mk.inj (h job)
  exact Prod.ext (congrArg Except.ok hjob.1) hjob.2

protected theorem bind {recorded : Task (Recorded σ) α} {bare : Task σ α}
    {next : α → Task (Recorded σ) β} {bareNext : α → Task σ β} (h : Erases recorded bare)
    (hnext : ∀ a, Erases (next a) (bareNext a)) :
    Erases (recorded >>= next) (bare >>= bareNext) := by
  intro job
  rw [comes_bind, comes_bind, h job]
  rcases recorded.comes job with ⟨_ | a, mid⟩
  · rfl
  · exact hnext a mid

/-- Looking at the job first, and at nothing of the record. -/
protected theorem job {recorded : Job (Recorded σ) → Task (Recorded σ) α}
    {bare : Job σ → Task σ α} (h : ∀ job, Erases (recorded job) (bare job.erased)) :
    Erases (Task.job >>= recorded) (Task.job >>= bare) := by
  intro job
  rw [comes_bind, comes_bind]
  exact h job job

/-- What is done over the recorded session comes to what is done over the bare one. -/
protected theorem overSession {ε : Type} {recorded : LinkM ε (Recorded σ) α}
    {bare : LinkM ε σ α} (wrap : ε → PluginError) (h : Upkeep.Erases recorded bare) :
    Erases (Task.overSession wrap recorded) (Task.overSession wrap bare) := by
  intro job
  cases hsession : job.session with
  | none =>
      have herased : job.erased.session = none := by rw [Job.erased, hsession]; rfl
      simp only [comes, Task.overSession, hsession, herased]
  | some session =>
      have herased : job.erased.session = some session.session := by
        rw [Job.erased, hsession]
        rfl
      rw [comes_overSession wrap bare herased, comes_overSession wrap recorded hsession]
      have hlink := h ⟨session, job.host⟩
      rw [show job.erased.host = job.host from rfl]
      rw [show bare ⟨session.session, job.host⟩ = _ from hlink]
      rfl

end Erases

/-! ## Which calls a task makes -/

/-- On any job with this assignment and a recorded session, a task adds calls to the record and
    comes to a result, and the calls and the result are as specified. -/
def Emits (assignment : Assignment) (task : Task (Recorded σ) α)
    (spec : List Call → Except PluginError α → Prop) : Prop :=
  ∀ job calls, job.Holds assignment calls →
    ∃ more, (task.comes job).2.Holds assignment (calls ++ more) ∧ spec more (task.comes job).1

namespace Emits

variable {assignment : Assignment} {spec : List Call → Except PluginError α → Prop}

/-- A weaker specification is met as well. -/
protected theorem weaken {task : Task (Recorded σ) α}
    {weak : List Call → Except PluginError α → Prop} (h : Emits assignment task spec)
    (hweak : ∀ calls result, spec calls result → weak calls result) :
    Emits assignment task weak := by
  intro job calls hholds
  obtain ⟨more, hmore, hspec⟩ := h job calls hholds
  exact ⟨more, hmore, hweak more _ hspec⟩

/-- A task that makes no calls, and leaves session and assignment alone. -/
theorem silent {task : Task (Recorded σ) α}
    (hsession : ∀ job, (task.comes job).2.session = job.session)
    (hassignment : ∀ job, (task.comes job).2.assignment = job.assignment)
    (hspec : ∀ job, spec [] (task.comes job).1) : Emits assignment task spec := by
  intro job calls hholds
  refine ⟨[], ⟨(hassignment job).trans hholds.assignment, ?_⟩, hspec job⟩
  rw [hsession job, List.append_nil]
  exact hholds.session

protected theorem pure {a : α} (h : spec [] (.ok a)) :
    Emits (σ := σ) assignment (pure a) spec :=
  silent (fun _ => rfl) (fun _ => rfl) (fun _ => h)

protected theorem fail {error : PluginError} (h : spec [] (.error error)) :
    Emits (σ := σ) assignment (Task.fail error) spec :=
  silent (fun _ => rfl) (fun _ => rfl) (fun _ => h)

protected theorem failWith {message : String} (h : spec [] (.error (.fatal message))) :
    Emits (σ := σ) assignment (Task.failWith message) spec :=
  silent (fun _ => rfl) (fun _ => rfl) (fun _ => h)

/-- With the result as a value the calls are the same. -/
protected theorem attempt {task : Task (Recorded σ) α} (h : Emits assignment task spec) :
    Emits assignment task.attempt
      (fun calls result => ∃ answer, result = .ok answer ∧ spec calls answer) := by
  intro job calls hholds
  obtain ⟨more, hmore, hspec⟩ := h job calls hholds
  exact ⟨more, hmore, (task.comes job).1, rfl, hspec⟩

/-- Two tasks in a row make the calls of the first, and then those of the second unless the first
    fails. -/
protected theorem bind {task : Task (Recorded σ) α} {next : α → Task (Recorded σ) β}
    {goal : List Call → Except PluginError β → Prop} (h : Emits assignment task spec)
    (hfail : ∀ calls error, spec calls (.error error) → goal calls (.error error))
    (hnext : ∀ calls a, spec calls (.ok a) →
      Emits assignment (next a) (fun more result => goal (calls ++ more) result)) :
    Emits assignment (task >>= next) goal := by
  intro job calls hholds
  rw [comes_bind]
  obtain ⟨first, hfirst, hspec⟩ := h job calls hholds
  rcases hcomes : task.comes job with ⟨error | a, mid⟩
  all_goals rw [hcomes] at hfirst hspec
  · exact ⟨first, hfirst, hfail first error hspec⟩
  · obtain ⟨more, hmore, hgoal⟩ := hnext first a hspec mid (calls ++ first) hfirst
    refine ⟨first ++ more, ?_, hgoal⟩
    rw [← List.append_assoc]
    exact hmore

/-- Something that is not seen on the record comes first. -/
theorem behind {task : Task (Recorded σ) Unit} {next : Unit → Task (Recorded σ) β}
    {goal : List Call → Except PluginError β → Prop}
    (hsession : ∀ job, (task.comes job).2.session = job.session)
    (hassignment : ∀ job, (task.comes job).2.assignment = job.assignment)
    (hok : ∀ job, (task.comes job).1 = .ok ()) (h : Emits assignment (next ()) goal) :
    Emits assignment (task >>= next) goal := by
  have hsilent : Emits assignment task (fun calls result => calls = [] ∧ result = .ok ()) :=
    silent hsession hassignment fun job => ⟨rfl, hok job⟩
  refine Emits.bind hsilent ?_ ?_
  · rintro calls error ⟨-, hresult⟩
    exact nomatch hresult
  · rintro calls ⟨⟩ ⟨rfl, -⟩
    exact h

/-- Looking at the job first shows the assignment. -/
protected theorem job {next : Job (Recorded σ) → Task (Recorded σ) β}
    {goal : List Call → Except PluginError β → Prop}
    (h : ∀ job, job.assignment = assignment → Emits assignment (next job) goal) :
    Emits assignment (Task.job >>= next) goal := by
  intro job calls hholds
  rw [comes_bind]
  exact h job hholds.assignment job calls hholds

/-- What is done over the session makes its calls. -/
protected theorem overSession {ε : Type} {action : LinkM ε (Recorded σ) α}
    {linkSpec : List Call → Except ε α → Prop} (wrap : ε → PluginError)
    (h : Upkeep.Emits action linkSpec) :
    Emits assignment (Task.overSession wrap action)
      (fun calls result => ∃ answer, result = answer.mapError wrap ∧ linkSpec calls answer) := by
  rintro job calls ⟨hassignment, session, hsession, rfl⟩
  obtain ⟨more, hmore, hspec⟩ := h ⟨session, job.host⟩
  rw [comes_overSession wrap action hsession]
  exact ⟨more, ⟨hassignment, _, rfl, hmore⟩, _, rfl, hspec⟩

end Emits

end Task

end Upkeep
