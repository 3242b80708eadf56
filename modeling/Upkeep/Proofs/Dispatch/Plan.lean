import Upkeep.Proofs.Dispatch.Run
import Upkeep.Proofs.Plugin.Catalog

/-! # Plans — a dispatch decides first and runs then

    Both dispatchers look at the job once, before the first body is started:
    they make a catalog, choose entries from it, and know whether something is
    wrong even if all of these complete.  That is a `Plan`, and it is computed
    from the registry and the job alone, so nothing that a body does can change
    what is left of it.

    `named_eq_execute` and `byPhase_eq_execute` say that a dispatch is exactly
    its plan, executed: run the entries, report the flaw if they all complete,
    finalize.  With `Run` this is all that there is to know of a dispatch. -/

namespace Upkeep.Dispatch

variable {σ : Type}

/-- What a dispatch has decided before it starts a body. -/
structure Plan (σ : Type) where
  /-- The job on which the entries run: it has been warned of what the catalog leaves out. -/
  job : Job σ
  /-- The entries to run. -/
  entries : List (CatalogEntry σ) := []
  /-- What is wrong even if all entries complete. -/
  flaw : Option DispatchError := none

/-- The job when it has been told what is wrong with its plan. -/
def report (flaw : DispatchError) (job : Job σ) : Job σ :=
  match flaw with
  | .unresolved missing =>
    job.logError ("Missing the following selected plugin(s): " ++ ", ".intercalate missing)
  | .noMatch phase =>
    (job.postStatus ("No plugins found for phase " ++ phase)).logError
      ("No plugins found for phase " ++ phase)
  | .missingPhase => job.logError "No phase given for the job"
  | .plugin _ _ => job

/-- A flaw shows when the entries have completed; a failure among them comes first. -/
def settle (flaw : Option DispatchError) :
    Except DispatchError Unit × Job σ → Except DispatchError Unit × Job σ
  | (.error error, job) => (.error error, job)
  | (.ok (), job) =>
    match flaw with
    | none => (.ok (), job)
    | some flaw => (.error flaw, report flaw job)

/-- A plan without a flaw comes to what its run comes to. -/
theorem settle_none (ran : Except DispatchError Unit × Job σ) : settle none ran = ran := by
  rcases ran with ⟨_ | _, job⟩
  · rfl
  · rfl

/-! ## The plan of an order -/

/-- What the plugins of an order have to be for: the job's platform and system, and the phases
    that are asked for or else the job's phase. -/
def wanted (phases : Option (List String)) (job : Job σ) : Criteria :=
  { ({} : Criteria).forPhases (phases.getD job.assignment.phase.toList) with
    platform := job.assignment.platform, os := job.assignment.os }

/-- The catalog for an order, with the complaints. -/
def orderScan (registry : Registry σ) (phases : Option (List String)) (job : Job σ) :
    Catalog σ × List Complaint :=
  Catalog.scan registry ((wanted phases job).forNames (job.assignment.order.getD []))

/-- The plan of an order: all of it if all of its names resolve, else nothing. -/
def orderPlan (registry : Registry σ) (phases : Option (List String)) (job : Job σ) : Plan σ :=
  let order := job.assignment.order.getD []
  let scanned := orderScan registry phases job
  let missing := missingNames scanned.1 order
  if missing.isEmpty then
    { job := job.warnAll scanned.2, entries := order.filterMap scanned.1.get? }
  else { job := job.warnAll scanned.2, flaw := some (.unresolved missing) }

/-! ## The plan of a phase -/

/-- The catalog for a phase, with the complaints. -/
def phaseScan (registry : Registry σ) (job : Job σ) : Catalog σ × List Complaint :=
  Catalog.scan registry
    { ({} : Criteria).forNames job.assignment.nameFilter with
      platform := job.assignment.platform, os := job.assignment.os }

/-- The entries of the preparatory pass, if the phase gets one. -/
def preparing (catalog : Catalog σ) (phase : String) : List (CatalogEntry σ) :=
  match preparatoryPhase? phase with
  | none => []
  | some before => catalog.declaring before

/-- The job when it has been told that there is nothing to prepare, if so. -/
def skipping (catalog : Catalog σ) (phase : String) (job : Job σ) : Job σ :=
  match preparatoryPhase? phase with
  | none => job
  | some before =>
    match catalog.declaring before with
    | [] => job.log .info ("No plugins found for phase " ++ before ++ "; skipping")
    | _ => job

/-- The entries for a phase: those of the preparatory pass, and those that declare the phase. -/
def passes (catalog : Catalog σ) (phase : String) : List (CatalogEntry σ) :=
  preparing catalog phase ++ catalog.declaring phase

/-- The job on which the passes run: it has been told what the catalog leaves out, and that there
    is nothing to prepare, if so. -/
def told (registry : Registry σ) (phase : String) (job : Job σ) : Job σ :=
  skipping (phaseScan registry job).1 phase (job.warnAll (phaseScan registry job).2)

/-- What is wrong with a phase that nothing declares. -/
def lack (catalog : Catalog σ) (phase : String) : Option DispatchError :=
  if catalog.declaring phase = [] then some (.noMatch phase) else none

/-- The plan of a phase: both passes in a row. -/
def phasePlan (registry : Registry σ) (job : Job σ) : Plan σ :=
  match job.assignment.phase with
  | none => { job, flaw := some .missingPhase }
  | some phase =>
    { job := told registry phase job
      entries := passes (phaseScan registry job).1 phase
      flaw := lack (phaseScan registry job).1 phase }

/-! ## What becomes of the job -/

/-- A job is told something: that changes the host alone, and no file. -/
def Reported (job next : Job σ) : Prop :=
  ∃ host : Host, next = { job with host } ∧ host.files = job.host.files

theorem Reported.refl (job : Job σ) : Reported job job := ⟨job.host, rfl, rfl⟩

/-- Warnings are told. -/
theorem warnAll_reported (complaints : List Complaint) (job : Job σ) :
    Reported job (job.warnAll complaints) := by
  have hfiles := job.warnAll_files complaints
  rw [Job.warnAll_eq] at hfiles ⊢
  exact ⟨_, rfl, hfiles⟩

/-- So is a flaw. -/
theorem settle_reported (flaw : Option DispatchError) (ran : Except DispatchError Unit × Job σ) :
    Reported ran.2 (settle flaw ran).2 := by
  rcases ran with ⟨_ | _, job⟩
  · exact .refl job
  · cases flaw with
    | none => exact .refl job
    | some flaw =>
        cases flaw with
        | plugin name error => exact .refl job
        | _ => exact ⟨_, rfl, rfl⟩

/-- The plan of an order is made on a job that is told what is left out. -/
theorem orderPlan_reported (registry : Registry σ) (phases : Option (List String)) (job : Job σ) :
    Reported job (orderPlan registry phases job).job := by
  rw [orderPlan]
  split
  · exact warnAll_reported _ job
  · exact warnAll_reported _ job

/-- For a phase it is told as well if there is nothing to prepare. -/
theorem told_reported (registry : Registry σ) (phase : String) (job : Job σ) :
    Reported job (told registry phase job) := by
  obtain ⟨host, hwarn, hfiles⟩ := warnAll_reported (phaseScan registry job).2 job
  rw [told, skipping, hwarn]
  split
  · exact ⟨host, rfl, hfiles⟩
  · split
    · exact ⟨_, rfl, hfiles⟩
    · exact ⟨host, rfl, hfiles⟩

/-- The plan of a phase is made on such a job. -/
theorem phasePlan_reported (registry : Registry σ) (job : Job σ) :
    Reported job (phasePlan registry job).job := by
  rw [phasePlan]
  split
  · exact .refl job
  · exact told_reported _ _ _

/-! ## Execution -/

variable [Session σ]

/-- Finalizing by the result of a run. -/
def finish : Except DispatchError Unit × Job σ → Except DispatchError (List String) × Job σ
  | (.ok (), job) => (.ok (job.finalize true).executed, job.finalize true)
  | (.error error, job) => (.error error, job.finalize false)

/-- What executing a plan comes to. -/
def Plan.execute (plan : Plan σ) : Except DispatchError (List String) × Job σ :=
  finish (settle plan.flaw (runEntries plan.entries plan.job))

/-- Concluding is finalizing by the result. -/
theorem conclude_apply (run : DispatchM σ Unit) (job : Job σ) :
    conclude run job = finish (run job) := by
  rw [conclude]
  rcases run job with ⟨_ | _, final⟩
  · rfl
  · rfl

/-- Running two lists of entries in a row. -/
theorem runEntries_append (first second : List (CatalogEntry σ)) (job : Job σ) :
    runEntries (first ++ second) job = match runEntries first job with
      | (.ok _, mid) => runEntries second mid
      | (.error error, mid) => (.error error, mid) := by
  induction first generalizing job with
  | nil => rfl
  | cons entry rest ih =>
      rw [List.cons_append, runEntries_cons, runEntries_cons]
      rcases invoke entry job with ⟨_ | _, mid⟩
      · rfl
      · exact ih mid

omit [Session σ] in
/-- Making a catalog is one pass over the registry, and the job is warned of the complaints. -/
theorem catalogFor_apply (registry : Registry σ) (criteria : Criteria) (job : Job σ) :
    catalogFor registry criteria job
      = (.ok (Catalog.scan registry { criteria with
            platform := job.assignment.platform, os := job.assignment.os }).1,
          job.warnAll (Catalog.scan registry { criteria with
            platform := job.assignment.platform, os := job.assignment.os }).2) := rfl

/-- Running an order is running its plan. -/
theorem runOrder_apply (registry : Registry σ) (phases : Option (List String)) (job : Job σ) :
    runOrder registry phases job
      = settle (orderPlan registry phases job).flaw
          (runEntries (orderPlan registry phases job).entries
            (orderPlan registry phases job).job) := by
  simp only [runOrder, Action.bind_apply, Action.get_apply, catalogFor_apply]
  rw [orderPlan]
  -- both sides ask the same catalog the same question
  by_cases hmissing : (missingNames (orderScan registry phases job).1
      (job.assignment.order.getD [])).isEmpty = true
  · rw [if_pos hmissing, settle_none]
    exact congrFun (if_pos hmissing) _
  · rw [if_neg hmissing]
    exact congrFun (if_neg hmissing) _

/-- The preparatory pass runs the entries that prepare, on a job that is told if there are
    none. -/
theorem runPreparation_apply (catalog : Catalog σ) (phase : String) (job : Job σ) :
    runPreparation catalog phase job
      = runEntries (preparing catalog phase) (skipping catalog phase job) := by
  rw [runPreparation, preparing, skipping]
  cases preparatoryPhase? phase with
  | none => rfl
  | some before =>
      dsimp only
      rw [Catalog.select_forPhase]
      cases catalog.declaring before with
      | nil => rfl
      | cons entry rest => rfl

/-- Running a phase is running its plan. -/
theorem runPhase_apply (registry : Registry σ) (job : Job σ) :
    runPhase registry job
      = settle (phasePlan registry job).flaw
          (runEntries (phasePlan registry job).entries (phasePlan registry job).job) := by
  simp only [runPhase, Action.bind_apply, Action.get_apply]
  rw [phasePlan]
  cases hphase : job.assignment.phase with
  | none => rfl
  | some phase =>
      have hscan : catalogFor registry (({} : Criteria).forNames job.assignment.nameFilter) job
          = (.ok (phaseScan registry job).1, job.warnAll (phaseScan registry job).2) := rfl
      simp only [Action.bind_apply, hscan, runPreparation_apply, Catalog.select_forPhase, passes,
        told, runEntries_append]
      -- a failure of the preparatory pass comes before the lack of anything for the phase
      rcases runEntries (preparing (phaseScan registry job).1 phase)
        (skipping (phaseScan registry job).1 phase (job.warnAll (phaseScan registry job).2))
        with ⟨_ | _, mid⟩
      · rfl
      · rw [lack]
        cases (phaseScan registry job).1.declaring phase with
        | nil => rfl
        | cons entry rest => exact (settle_none _).symm

/-- **EXECUTION**: a dispatch by the order is its plan, executed. -/
theorem named_eq_execute (registry : Registry σ) (phases : Option (List String)) (job : Job σ) :
    named registry phases job = (orderPlan registry phases job).execute := by
  rw [named, Plan.execute, conclude_apply, runOrder_apply]

/-- **EXECUTION**: a dispatch by the phase is its plan, executed. -/
theorem byPhase_eq_execute (registry : Registry σ) (job : Job σ) :
    byPhase registry job = (phasePlan registry job).execute := by
  rw [byPhase, Plan.execute, conclude_apply, runPhase_apply]

/-! ## What a dispatch leaves behind -/

omit [Session σ] in
/-- What changes the host alone adds nothing to the account. -/
theorem accounted_host (job : Job σ) (host : Host) : Accounted job { job with host } [] :=
  ⟨(List.append_nil _).symm, rfl, rfl⟩

omit [Session σ] in
/-- A warning adds nothing to it. -/
theorem accounted_warnAll (complaints : List Complaint) (job : Job σ) :
    Accounted job (job.warnAll complaints) [] := by
  rw [Job.warnAll_eq]
  exact accounted_host job _

/-- Finalizing adds nothing to the account. -/
theorem accounted_finalize {job final : Job σ} {names : List String}
    (h : Accounted job final names) (succeeded : Bool) :
    Accounted job (final.finalize succeeded) names := by
  have hall := h.trans (.of_reaches (.finalize succeeded))
  rwa [List.append_nil] at hall

/-- So what is on the account of a run is on that of the dispatch. -/
theorem accounted_finish {job : Job σ} {ran : Except DispatchError Unit × Job σ}
    {names : List String} (h : Accounted job ran.2 names) : Accounted job (finish ran).2 names := by
  rcases ran with ⟨_ | _, final⟩
  · exact accounted_finalize h false
  · exact accounted_finalize h true

omit [Session σ] in
/-- Telling a job of a flaw adds nothing to the account. -/
theorem accounted_settle {job : Job σ} (flaw : Option DispatchError)
    {ran : Except DispatchError Unit × Job σ} {names : List String}
    (h : Accounted job ran.2 names) : Accounted job (settle flaw ran).2 names := by
  obtain ⟨host, hsettle, -⟩ := settle_reported flaw ran
  rw [hsettle]
  exact ⟨h.executed, h.number, h.data⟩

/-- A run without a failure is reported by all names on the account. -/
theorem finish_ok {job final : Job σ} {names : List String} (h : Accounted job final names) :
    (finish (.ok (), final)).1 = .ok (job.executed ++ names) :=
  congrArg Except.ok (accounted_finalize h true).executed

/-- What executing a plan comes to, told by the run of its entries. -/
theorem Plan.execute_eq (plan : Plan σ) (run : Run plan.entries plan.job) :
    plan.execute = finish (settle plan.flaw (run.result, run.final)) := by
  rw [execute, run.runEntries_eq]

/-- **ACCOUNT**: a dispatch leaves the names of the bodies that have completed, and their
    number. -/
theorem Plan.execute_accounted (plan : Plan σ) (run : Run plan.entries plan.job) :
    Accounted plan.job plan.execute.2 (run.done.map Start.name) := by
  rw [plan.execute_eq run]
  exact accounted_finish (accounted_settle plan.flaw run.accounted)

/-- **END**: all entries of a plan complete, and its flaw decides; or the dispatch fails with the
    first that does not. -/
theorem Plan.execute_ends (plan : Plan σ) (run : Run plan.entries plan.job) :
    (run.starts = run.done ∧ run.done.map Start.entry = plan.entries ∧
      plan.execute.1 = match plan.flaw with
        | none => .ok (plan.job.executed ++ run.done.map Start.name)
        | some flaw => .error flaw) ∨
    ∃ entry error, plan.entries[run.done.length]? = some entry ∧
      plan.execute.1 = .error (.plugin entry.descriptor.name error) ∧ run.FailsAt entry error := by
  rw [plan.execute_eq run]
  rcases run.ends with ⟨hok, hstarts, hall⟩ | ⟨entry, error, hplace, herror, hfails⟩
  · refine Or.inl ⟨hstarts, hall, ?_⟩
    rw [hok]
    cases plan.flaw with
    | none => exact finish_ok run.accounted
    | some flaw => rfl
  · refine Or.inr ⟨entry, error, hplace, ?_, hfails⟩
    rw [herror]
    rfl

end Upkeep.Dispatch
