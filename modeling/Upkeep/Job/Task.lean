import Upkeep.Job.Basic

/-!
# Tasks — what a plugin may do to its job

A plugin reads its job, talks over the job's session, uses the host, stores values and may even
finalize the job. It has no hold on the account of the plugins that ran, on the place in the
sequence, on the data of the plugins and on an outcome once recorded. `Job.Reaches` says so, and
a `Task` carries the proof of it. A plugin that dispatches its own job once more, or puts another
job in its place, does have a hold on these, and is no `Task`.
-/

namespace Upkeep

/-- A plugin may lead the job from one state to the other. -/
structure Job.Reaches {σ : Type} (job next : Job σ) : Prop where
  number : next.number = job.number
  executed : next.executed = job.executed
  data : next.data = job.data
  started : next.started = job.started
  current : next.current = job.current ∨ next.current = none
  outcome : job.isFinalized → next.outcome = job.outcome

namespace Job.Reaches

variable {σ : Type} {a b c job next : Job σ}

/-- Doing nothing is allowed. -/
protected theorem refl (job : Job σ) : job.Reaches job :=
  ⟨rfl, rfl, rfl, rfl, Or.inl rfl, fun _ => rfl⟩

/-- One thing after the other is allowed if both are. -/
protected theorem trans (h₁ : a.Reaches b) (h₂ : b.Reaches c) : a.Reaches c where
  number := h₂.number.trans h₁.number
  executed := h₂.executed.trans h₁.executed
  data := h₂.data.trans h₁.data
  started := h₂.started.trans h₁.started
  current := h₂.current.elim (fun h => h₁.current.imp (h.trans ·) (h.trans ·)) Or.inr
  outcome h := by
    have hb := h₁.outcome h
    have : b.isFinalized := by simpa [Job.isFinalized, hb] using h
    exact (h₂.outcome this).trans hb

/-- Nothing of the account is touched, nor the outcome. -/
theorem of_eq (number : next.number = job.number) (executed : next.executed = job.executed)
    (data : next.data = job.data) (started : next.started = job.started)
    (current : next.current = job.current) (outcome : next.outcome = job.outcome) :
    job.Reaches next :=
  ⟨number, executed, data, started, Or.inl current, fun _ => outcome⟩

theorem onHost (f : Host → Host) : job.Reaches (job.onHost f) := of_eq rfl rfl rfl rfl rfl rfl

theorem save (key : String) (value : Data) : job.Reaches (job.save key value) :=
  of_eq rfl rfl rfl rfl rfl rfl

theorem load? (key : String) : job.Reaches (job.load? key).2 := by
  unfold Job.load?
  split
  · exact .refl job
  · exact of_eq rfl rfl rfl rfl rfl rfl

theorem saveFile (name text : String) : job.Reaches (job.saveFile name text).2 := by
  unfold Job.saveFile
  dsimp only
  split
  · exact .refl job
  · split <;> exact of_eq rfl rfl rfl rfl rfl rfl

theorem release [Session σ] : job.Reaches job.release := by
  unfold Job.release
  split
  · exact .refl job
  · split
    · dsimp only
      split
      · exact of_eq rfl rfl rfl rfl rfl rfl
      · exact of_eq rfl rfl rfl rfl rfl rfl
    · exact .refl job

theorem writeSummary (succeeded : Bool) : job.Reaches (job.writeSummary succeeded) := by
  unfold Job.writeSummary
  split
  · exact .refl job
  · dsimp only
    split <;> exact onHost _

theorem finalize [Session σ] (succeeded : Bool) : job.Reaches (job.finalize succeeded) := by
  unfold Job.finalize
  split
  · exact .refl job
  · next h =>
    have ended : job.Reaches { job with outcome := some succeeded, current := none } :=
      ⟨rfl, rfl, rfl, rfl, Or.inr rfl, fun final => absurd final h⟩
    exact ended.trans ((onHost _).trans (release.trans (writeSummary _)))

end Job.Reaches

/-- What a plugin does: a result, and the job in a state that a plugin may lead it to. -/
def Task (σ α : Type) := (job : Job σ) → Except PluginError α × { next : Job σ // job.Reaches next }

namespace Task

variable {σ α β : Type}

/-- Does nothing. -/
protected def pure (a : α) : Task σ α := fun job => (.ok a, ⟨job, .refl job⟩)

/-- Does one thing after the other; a failure ends the task. -/
protected def bind (task : Task σ α) (next : α → Task σ β) : Task σ β := fun job =>
  match task job with
  | (.error e, reached) => (.error e, reached)
  | (.ok a, ⟨mid, first⟩) =>
    match next a mid with
    | (result, ⟨last, second⟩) => (result, ⟨last, first.trans second⟩)

instance : Monad (Task σ) where
  pure := Task.pure
  bind := Task.bind

/-- Fails. -/
def fail (e : PluginError) : Task σ α := fun job => (.error e, ⟨job, .refl job⟩)

/-- The result of a task that may fail, as a value. -/
def attempt (task : Task σ α) : Task σ (Except PluginError α) := fun job =>
  match task job with
  | (result, reached) => (.ok result, reached)

/-- The job as it is. -/
def job : Task σ (Job σ) := fun job => (.ok job, ⟨job, .refl job⟩)

/-- Changes the host. -/
def onHost (f : Host → Host) : Task σ Unit := fun job => (.ok (), ⟨job.onHost f, .onHost f⟩)

/-- Changes what the job is asked to do. -/
def reassign (f : Assignment → Assignment) : Task σ Unit := fun job =>
  (.ok (), ⟨{ job with assignment := f job.assignment }, .of_eq rfl rfl rfl rfl rfl rfl⟩)

/-- Records a message. -/
def log (level : Level) (message : String) : Task σ Unit := fun job =>
  (.ok (), ⟨job.log level message, .onHost _⟩)

/-- Keeps a warning with the job and records it. -/
def warn (message : String) : Task σ Unit := fun job => (.ok (), ⟨job.warn message, .onHost _⟩)

/-- Keeps an error with the job, records it and fails with it. -/
def failWith (message : String) : Task σ α := fun job =>
  (.error (.fatal message), ⟨job.logError message, .onHost _⟩)

/-- Shows a status line to the operator. -/
def postStatus (message : String) : Task σ Unit := fun job =>
  (.ok (), ⟨job.postStatus message, .onHost _⟩)

/-- Leaves a note in the journal. -/
def note (value : Data) : Task σ Unit := onHost (·.note value)

/-- Lets time pass. -/
def sleep (time : Duration) : Task σ Unit := onHost (·.sleep time)

/-- Puts a value into the store. -/
def save (key : String) (value : Data) : Task σ Unit := fun job =>
  (.ok (), ⟨job.save key value, .save key value⟩)

/-- A value of the store. -/
def load? (key : String) : Task σ (Option Stored) := fun job =>
  (.ok (job.load? key).1, ⟨(job.load? key).2, .load? key⟩)

/-- What a reader makes of data. -/
def decode (result : Data.Decoded α) : Task σ α :=
  match result with
  | .ok a => Task.pure a
  | .error e => fail (.data e)

/-- A value of the store as a reader makes it, and when it was put there. -/
def loadAs? (read : Data → Data.Decoded α) (key : String) : Task σ (Option (α × Instant)) := do
  match ← load? key with
  | none => return none
  | some stored => return some (← decode (read stored.value), stored.since)

/-- Writes a text into the log directory under a free name, and gives the file's path. -/
def saveFile (name text : String) : Task σ String := fun job =>
  ((job.saveFile name text).1.mapError .io, ⟨(job.saveFile name text).2, .saveFile name text⟩)

/-- Changes the file tree, or fails as it does. -/
def onFiles (f : Files → Except IoError Files) : Task σ Unit := fun job =>
  match f job.host.files with
  | .ok files => (.ok (), ⟨job.onHost ({ · with files }), .onHost _⟩)
  | .error e => (.error (.io e), ⟨job, .refl job⟩)

/-- Does something over the job's session; a job without one is not connected. -/
def overSession {ε : Type} (wrap : ε → PluginError) (action : LinkM ε σ α) : Task σ α := fun job =>
  match job.session with
  | none => (.error (.session .notConnected), ⟨job, .refl job⟩)
  | some session =>
    match action ⟨session, job.host⟩ with
    | (result, link) =>
      (result.mapError wrap,
        ⟨{ job with session := some link.session, host := link.host },
          .of_eq rfl rfl rfl rfl rfl rfl⟩)

variable [Session σ]

/-- Ends the job with its outcome, unless it is over. -/
def finalize (succeeded : Bool) : Task σ Unit := fun job =>
  (.ok (), ⟨job.finalize succeeded, .finalize succeeded⟩)

/-- Follows a dialogue over the job's session. -/
def converse (dialogue : Dialogue) (command : String) : Task σ Unit := do
  let waits := (← job).assignment.waits
  overSession .dialogue (dialogue.run waits command)

/-- Waits until the device is back. -/
def converge (check : ConvergenceCheck) : Task σ ConvergenceReport :=
  overSession .convergence (Convergence.await check .platform)

end Task

end Upkeep
