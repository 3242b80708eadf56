import Upkeep.Proofs.Job.Recorded

/-! # Oblivious tasks — the data do not matter any more

    A plugin is given data, and most of what it does has nothing to do with
    them.  A task is `Oblivious` if it comes to the same whatever data the job
    has for its plugins, and if it never fails for what the data are like.
    Nothing that goes over the session can look at them, so only what looks at
    the job itself has to be gone through. -/

namespace Upkeep

variable {σ α β : Type}

/-- The job with other data for its plugins. -/
def Job.withData (data : List Data) (job : Job σ) : Job σ := { job with data }

namespace Task

/-- A task does not look at the data for the plugins: it comes to the same whatever they are, and
    does not fail for what they are like. -/
structure Oblivious (task : Task σ α) : Prop where
  same : ∀ data job, task.comes (Job.withData data job)
    = ((task.comes job).1, (task.comes job).2.withData data)
  content : ∀ job error, (task.comes job).1 ≠ .error (.data error)

namespace Oblivious

protected theorem pure (a : α) : Oblivious (σ := σ) (pure a) :=
  ⟨fun _ _ => rfl, fun _ _ => nofun⟩

protected theorem fail {error : PluginError} (h : ∀ cause, error ≠ .data cause) :
    Oblivious (σ := σ) (α := α) (Task.fail error) :=
  ⟨fun _ _ => rfl, fun _ cause hfails => h cause (Except.error.inj hfails)⟩

protected theorem failWith (message : String) :
    Oblivious (σ := σ) (α := α) (Task.failWith message) :=
  ⟨fun _ _ => rfl, fun _ _ => nofun⟩

protected theorem onHost (f : Host → Host) : Oblivious (σ := σ) (Task.onHost f) :=
  ⟨fun _ _ => rfl, fun _ _ => nofun⟩

protected theorem log (level : Level) (message : String) :
    Oblivious (σ := σ) (Task.log level message) :=
  ⟨fun _ _ => rfl, fun _ _ => nofun⟩

protected theorem warn (message : String) : Oblivious (σ := σ) (Task.warn message) :=
  ⟨fun _ _ => rfl, fun _ _ => nofun⟩

protected theorem postStatus (message : String) : Oblivious (σ := σ) (Task.postStatus message) :=
  ⟨fun _ _ => rfl, fun _ _ => nofun⟩

protected theorem attempt {task : Task σ α} (h : task.Oblivious) : task.attempt.Oblivious := by
  refine ⟨?_, fun _ _ => nofun⟩
  intro data job
  have hjob := Prod.mk.inj (h.same data job)
  exact Prod.ext (congrArg Except.ok hjob.1) hjob.2

/-- What follows needs to be oblivious only for what the first task can come to. -/
protected theorem bind_comes {task : Task σ α} {next : α → Task σ β} (h : task.Oblivious)
    (hnext : ∀ job a, (task.comes job).1 = .ok a → (next a).Oblivious) :
    (task >>= next).Oblivious := by
  constructor
  · intro data job
    have hsame := h.same data job
    have hbehind := hnext job
    rw [comes_bind, comes_bind, hsame]
    rcases hfirst : task.comes job with ⟨error | a, mid⟩
    · rfl
    · rw [hfirst] at hbehind
      exact (hbehind a rfl).same data mid
  · intro job error
    have hcontent := h.content job error
    have hbehind := hnext job
    rw [comes_bind]
    rcases hfirst : task.comes job with ⟨cause | a, mid⟩
    all_goals rw [hfirst] at hcontent hbehind
    · exact fun hfails => hcontent (congrArg Except.error (Except.error.inj hfails))
    · exact (hbehind a rfl).content mid error

protected theorem bind {task : Task σ α} {next : α → Task σ β} (h : task.Oblivious)
    (hnext : ∀ a, (next a).Oblivious) : (task >>= next).Oblivious :=
  h.bind_comes fun _ a _ => hnext a

/-- Looking at the job first, but not at the data. -/
protected theorem job {next : Job σ → Task σ α}
    (hnext : ∀ data job, next (Job.withData data job) = next job)
    (h : ∀ job, (next job).Oblivious) : (Task.job >>= next).Oblivious := by
  constructor
  · intro data job
    rw [comes_bind, comes_bind]
    show (next (Job.withData data job)).comes (Job.withData data job) = _
    rw [hnext data job]
    exact (h job).same data job
  · intro job error
    rw [comes_bind]
    exact (h job).content job error

/-- Over the session there are no data to look at. -/
protected theorem overSession {ε : Type} {wrap : ε → PluginError}
    (h : ∀ error cause, wrap error ≠ .data cause) (action : LinkM ε σ α) :
    Oblivious (Task.overSession wrap action) := by
  constructor
  · intro data job
    cases hsession : job.session with
    | none =>
        have hother : (Job.withData data job).session = none := hsession
        simp only [comes, Task.overSession, hsession, hother]
    | some session =>
        have hother : (Job.withData data job).session = some session := hsession
        rw [comes_overSession wrap action hsession, comes_overSession wrap action hother]
        rfl
  · intro job error
    cases hsession : job.session with
    | none =>
        simp only [comes, Task.overSession, hsession]
        rintro ⟨⟩
    | some session =>
        rw [comes_overSession wrap action hsession]
        cases (action ⟨session, job.host⟩).1 with
        | error cause => exact fun hfails => h cause error (Except.error.inj hfails)
        | ok a => rintro ⟨⟩

end Oblivious

end Task

end Upkeep
