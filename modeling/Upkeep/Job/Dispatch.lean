import Upkeep.Plugin.Catalog
import Upkeep.Phase

/-!
# Dispatch — running the plugins of a job

A job with an order runs exactly the plugins of that order, provided that all of them are in the
catalog; else nothing runs. A job with a phase runs the plugins for that phase in the order of the
catalog, after those for the preparatory phase if there is one. The first failure ends either, and
either ends with finalizing the job.
-/

namespace Upkeep

/-- Why a job fails. -/
inductive DispatchError where
  | unresolved (missing : List String)
  | noMatch (phase : String)
  | missingPhase
  | plugin (name : String) (error : PluginError)
  deriving Repr

/-- The failure in words. -/
def DispatchError.message : DispatchError → String
  | .unresolved missing =>
    "missing the following selected plugin(s): " ++ ", ".intercalate missing
  | .noMatch phase => "no plugins found for phase " ++ phase
  | .missingPhase => "no phase requested for an unordered dispatch"
  | .plugin name error => "plugin '" ++ name ++ "' failed: " ++ error.message

/-- A part of a dispatch: it changes the job and may fail. -/
abbrev DispatchM (σ α : Type) := ExceptT DispatchError (StateM (Job σ)) α

namespace Dispatch

variable {σ : Type} [Session σ]

/-- Connects or disconnects the session to suit the next plugin. -/
def reconcile (needed : Bool) : Task σ Unit := do
  match (← Task.job).session with
  | none => if needed then Task.fail (.session .notConnected)
  | some session =>
    if needed && !Session.isConnected session then
      Task.log .info "Connecting with device."
      Task.overSession .session (Link.call Session.connect)
    else if !needed && Session.isConnected session then
      Task.log .info "Disconnecting from device."
      Task.overSession .session (Link.call Session.disconnect)

/-- The job when a plugin is about to be dispatched. -/
def announce (name : String) (job : Job σ) : Job σ :=
  let job := { job with current := none }.log .info
    ("Dispatching: '" ++ name ++ "#" ++ toString job.number ++ "'")
  { job.postStatus name with current := some name }

/-- The job when a plugin has completed. -/
def complete (name : String) (job : Job σ) : Job σ :=
  { job with executed := job.executed ++ [name], number := job.number + 1, current := none }

/-- The job when a plugin has failed. A failure that the plugin has not reported is reported. -/
def abandon (error : PluginError) (job : Job σ) : Job σ :=
  let job := match error with
    | .fatal _ => job
    | error => job.logError error.message
  { job with current := none }

/-- Runs the plugin of a catalog entry. -/
def invoke (entry : CatalogEntry σ) : DispatchM σ Unit := fun job =>
  let name := entry.descriptor.name
  let task : Task σ Unit := do
    reconcile entry.plugin.needsConnection
    entry.plugin.task
  match task (announce name job) with
  | (.ok (), ⟨job, _⟩) => (.ok (), complete name job)
  | (.error error, ⟨job, _⟩) => (.error (.plugin name error), abandon error job)

/-- Runs the plugins of some entries up to the first failure. -/
def runEntries : List (CatalogEntry σ) → DispatchM σ Unit
  | [] => pure ()
  | entry :: rest => do
    invoke entry
    runEntries rest

/-- Changes the job. -/
def onJob (f : Job σ → Job σ) : DispatchM σ Unit := modify f

/-- The catalog for some criteria and the job's platform and system. -/
def catalogFor (registry : Registry σ) (criteria : Criteria) : DispatchM σ (Catalog σ) := do
  let assignment := (← get).assignment
  let criteria := { criteria with platform := assignment.platform, os := assignment.os }
  modifyGet (Catalog.build registry criteria)

/-- The names among an order that a catalog does not have, each once. -/
def missingNames (catalog : Catalog σ) (order : List String) : List String :=
  (order.filter fun name => (catalog.get? name).isNone).foldl
    (fun missing name => if missing.contains name then missing else missing ++ [name]) []

/-- Runs the job's order. With `phases`, plugins have to be for all of these instead of the job's
phase. -/
def runOrder (registry : Registry σ) (phases : Option (List String)) : DispatchM σ Unit := do
  let assignment := (← get).assignment
  let order := assignment.order.getD []
  let phases := phases.getD assignment.phase.toList
  let catalog ← catalogFor registry (({} : Criteria).forPhases phases |>.forNames order)
  let missing := missingNames catalog order
  if missing.isEmpty then runEntries (order.filterMap catalog.get?)
  else
    onJob (·.logError ("Missing the following selected plugin(s): " ++ ", ".intercalate missing))
    throw (.unresolved missing)

/-- Runs the preparatory pass for a phase; there may be nothing to run. -/
def runPreparation (catalog : Catalog σ) (phase : String) : DispatchM σ Unit :=
  match preparatoryPhase? phase with
  | none => pure ()
  | some before =>
    match catalog.select (({} : Criteria).forPhase before) with
    | [] => onJob (·.log .info ("No plugins found for phase " ++ before ++ "; skipping"))
    | entries => runEntries entries

/-- Runs the plugins for the job's phase. -/
def runPhase (registry : Registry σ) : DispatchM σ Unit := do
  let assignment := (← get).assignment
  match assignment.phase with
  | none =>
    onJob (·.logError "No phase given for the job")
    throw .missingPhase
  | some phase =>
    let catalog ← catalogFor registry (({} : Criteria).forNames assignment.nameFilter)
    runPreparation catalog phase
    match catalog.select (({} : Criteria).forPhase phase) with
    | [] =>
      let message := "No plugins found for phase " ++ phase
      onJob fun job => (job.postStatus message).logError message
      throw (.noMatch phase)
    | entries => runEntries entries

/-- Finalizes the job by the result of its run; the names of all plugins that have completed. -/
def conclude (run : DispatchM σ Unit) : DispatchM σ (List String) := fun job =>
  match run job with
  | (.ok (), job) =>
    let job := job.finalize true
    (.ok job.executed, job)
  | (.error error, job) => (.error error, job.finalize false)

/-- Runs a job by its order. -/
def named (registry : Registry σ) (phases : Option (List String)) : DispatchM σ (List String) :=
  conclude (runOrder registry phases)

/-- Runs a job by its phase. -/
def byPhase (registry : Registry σ) : DispatchM σ (List String) := conclude (runPhase registry)

/-- Runs a job by its order if it has one, else by its phase. -/
def runJob (registry : Registry σ) : DispatchM σ (List String) := do
  if (← get).assignment.order.isSome then named registry none else byPhase registry

end Dispatch

end Upkeep
