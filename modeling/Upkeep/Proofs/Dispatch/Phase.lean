import Upkeep.Proofs.Dispatch.Plan
import Upkeep.Session.Replay

/-! # Phases — two passes over one catalog

    A job without an order runs the plugins for its phase, and before them those
    for the preparatory phase if there is one.  Both passes read one catalog,
    made from the job as it is before the first body is started.  So a dispatch
    is one run over two lists in a row, and only the second of them must not be
    empty (`InPasses`). -/

namespace Upkeep.Dispatch

variable {σ : Type}

/-- `Add`, `Activate` and `Deactivate` are prepared, by what declares their `Pre-` phase; nothing
    else is. -/
theorem preparing_eq (catalog : Catalog σ) (phase : String) :
    preparing catalog phase =
      if phase ∈ ["Add", "Activate", "Deactivate"] then catalog.declaring ("Pre-" ++ phase)
      else [] := by
  rw [preparing, preparatoryPhase?]
  by_cases hphase : phase ∈ ["Add", "Activate", "Deactivate"]
  · have hprepared : preparedPhases.contains phase = true := List.contains_iff_mem.mpr hphase
    rw [if_pos hphase, if_pos hprepared]
  · have hprepared : ¬ (preparedPhases.contains phase = true) :=
      fun h => hphase (List.contains_iff_mem.mp h)
    rw [if_neg hphase, if_neg hprepared]

/-- What a catalog has for a phase stands in the order of the registry. -/
theorem declaring_sublist (registry : Registry σ) (criteria : Criteria) (phase : String) :
    (((Catalog.scan registry criteria).1.declaring phase).map CatalogEntry.registered).Sublist
      registry := by
  have hfilter : ((Catalog.scan registry criteria).1.declaring phase).Sublist
      (Catalog.scan registry criteria).1.entries := List.filter_sublist
  exact (hfilter.map _).trans (Catalog.scan_sublist registry criteria)

/-! ## The plan of a phase -/

/-- The plan of a job with a phase. -/
theorem phasePlan_of_phase {registry : Registry σ} {job : Job σ} {phase : String}
    (phased : job.assignment.phase = some phase) :
    phasePlan registry job =
      { job := told registry phase job
        entries := passes (phaseScan registry job).1 phase
        flaw := lack (phaseScan registry job).1 phase } := by
  rw [phasePlan, phased]

/-- Being told something adds nothing to the account. -/
theorem accounted_told (registry : Registry σ) (phase : String) (job : Job σ) :
    Accounted job (told registry phase job) [] := by
  obtain ⟨host, htold, -⟩ := told_reported registry phase job
  rw [htold]
  exact accounted_host job host

section Bodies

variable {bodies : RegistryEntry σ → Task σ Unit}

/-- The passes with other bodies are the same plugins with these bodies. -/
theorem passes_withBodies (catalog : Catalog σ) (phase : String) :
    passes (catalog.withBodies bodies) phase
      = (passes catalog phase).map (CatalogEntry.withBody bodies) := by
  simp only [passes]
  rw [preparing_eq, preparing_eq, List.map_append, catalog.declaring_withBodies phase]
  split
  · rw [Catalog.declaring_withBodies]
  · rfl

/-- Whether there is something to prepare does not depend on what the plugins do. -/
theorem skipping_withBodies (catalog : Catalog σ) (phase : String) (job : Job σ) :
    skipping (catalog.withBodies bodies) phase job = skipping catalog phase job := by
  simp only [skipping]
  cases preparatoryPhase? phase with
  | none => rfl
  | some before =>
      dsimp only
      rw [Catalog.declaring_withBodies]
      cases catalog.declaring before with
      | nil => rfl
      | cons entry rest => rfl

/-- **PLAN**: with other bodies, which may change whatever the plan was made from, the plan is
    the same plugins on the same job. -/
theorem phasePlan_withBodies {registry : Registry σ} {job : Job σ} {phase : String}
    (phased : job.assignment.phase = some phase) :
    phasePlan (registry.withBodies bodies) job =
      { job := told registry phase job
        entries := (passes (phaseScan registry job).1 phase).map (CatalogEntry.withBody bodies)
        flaw := lack (phaseScan registry job).1 phase } := by
  have hscan : phaseScan (registry.withBodies bodies) job
      = ((phaseScan registry job).1.withBodies bodies, (phaseScan registry job).2) :=
    Catalog.scan_withBodies registry _
  rw [phasePlan_of_phase phased, told, hscan]
  simp only [lack, passes_withBodies, skipping_withBodies, Catalog.declaring_withBodies,
    List.map_eq_nil_iff]
  rfl

end Bodies

/-! ## Dispatching a phase -/

variable [Session σ]

/-- What becomes of a job with a phase, told by the run of the passes; there is only one
    (`Run.unique`). -/
structure InPasses (registry : Registry σ) (job : Job σ) (phase : String)
    (run : Run (passes (phaseScan registry job).1 phase) (told registry phase job)) : Prop where
  /-- The dispatch is the run, the complaint if nothing declares the phase, and the finalizing. -/
  dispatch : byPhase registry job =
    finish (settle (lack (phaseScan registry job).1 phase) (run.result, run.final))
  /-- The bodies that are started are those of a prefix of the two passes in a row. -/
  starts : run.starts.map Start.entry <+: passes (phaseScan registry job).1 phase
  /-- The `k`-th body finds its own name, the `k`-th place from the job's on, and the data of
      this place. -/
  view : ∀ (k : Nat) (start : Start σ), run.starts[k]? = some start →
    start.job.current = some start.name ∧ start.job.number = job.number + k ∧
    start.job.pluginData? =
      if job.number + k = 0 then none else job.data[job.number + k - 1]?
  /-- All bodies that have completed succeeded. -/
  succeed : ∀ start ∈ run.done, start.result = .ok ()
  /-- Both passes complete, and something has to declare the phase; or the first plugin that does
      not complete is that of the error. -/
  ends :
    (run.starts = run.done ∧
      run.done.map Start.entry = passes (phaseScan registry job).1 phase ∧
      (byPhase registry job).1 =
        if (phaseScan registry job).1.declaring phase = [] then .error (.noMatch phase)
        else .ok (job.executed ++ run.done.map Start.name)) ∨
    ∃ entry error, (passes (phaseScan registry job).1 phase)[run.done.length]? = some entry ∧
      (byPhase registry job).1 = .error (.plugin entry.descriptor.name error) ∧
      run.FailsAt entry error
  /-- Exactly the names that have completed are put on the account. -/
  executed : (byPhase registry job).2.executed = job.executed ++ run.done.map Start.name
  /-- The place moves on with each of them. -/
  number : (byPhase registry job).2.number = job.number + run.done.length

/-- **PASSES**: a job with a phase starts the plugins of the preparatory pass, if the phase gets
    one, and then those that declare the phase, both in the order of the registry, up to the end
    or to the first that fails. The bodies have no say in which plugins these are: with any others
    it is a run of the same passes. -/
theorem byPhase_runs_passes (registry : Registry σ) (job : Job σ) (phase : String)
    (phased : job.assignment.phase = some phase) :
    (∃ run, InPasses registry job phase run) ∧
    passes (phaseScan registry job).1 phase =
      (if phase ∈ ["Add", "Activate", "Deactivate"] then
        (phaseScan registry job).1.declaring ("Pre-" ++ phase) else []) ++
      (phaseScan registry job).1.declaring phase ∧
    (∀ declared, (((phaseScan registry job).1.declaring declared).map
      CatalogEntry.registered).Sublist registry) ∧
    ∀ bodies : RegistryEntry σ → Task σ Unit,
      ∃ run : Run ((passes (phaseScan registry job).1 phase).map (CatalogEntry.withBody bodies))
          (told registry phase job),
        byPhase (registry.withBodies bodies) job =
          finish (settle (lack (phaseScan registry job).1 phase) (run.result, run.final)) := by
  let plan : Plan σ :=
    { job := told registry phase job
      entries := passes (phaseScan registry job).1 phase
      flaw := lack (phaseScan registry job).1 phase }
  let ran : Run plan.entries plan.job := run plan.entries plan.job
  have hphase : byPhase registry job = plan.execute := by
    rw [byPhase_eq_execute, phasePlan_of_phase phased]
  have haccount := (accounted_told registry phase job).trans (plan.execute_accounted ran)
  rw [List.nil_append, ← hphase] at haccount
  have htold := accounted_told registry phase job
  refine ⟨⟨ran, ?_, ran.starts_prefix, ?_, ran.completes.succeed, ?_, haccount.executed, ?_⟩,
    ?_, declaring_sublist registry _, ?_⟩
  · rw [hphase, plan.execute_eq ran]
  · intro k start hk
    have hsees := ran.sees k start hk
    rw [htold.number, htold.data] at hsees
    exact ⟨hsees.current, hsees.number, hsees.pluginData?⟩
  · rw [hphase]
    -- if both passes complete, what is left to be said is whether the second was empty
    rcases plan.execute_ends ran with ⟨hno, hall, hresult⟩ | hfails
    · refine Or.inl ⟨hno, hall, ?_⟩
      rw [htold.executed, List.append_nil] at hresult
      by_cases hnone : (phaseScan registry job).1.declaring phase = []
      · have hlack : plan.flaw = some (.noMatch phase) := if_pos hnone
        rw [hlack] at hresult
        rw [hresult, if_pos hnone]
      · have hlack : plan.flaw = none := if_neg hnone
        rw [hlack] at hresult
        rw [hresult, if_neg hnone]
    · exact Or.inr hfails
  · rw [haccount.number, List.length_map]
  · rw [passes, preparing_eq]
  · intro bodies
    refine ⟨run _ _, ?_⟩
    rw [byPhase_eq_execute, phasePlan_withBodies phased, Plan.execute_eq _ (run _ _)]

/-- A plugin that prepares and takes part in an `Add`, and one that only takes part. -/
def spaceAndAdd : Registry Replay := [
  ⟨"site.add", { manifest := (Manifest.named "add").forPhases ["Add"], task := pure () }⟩,
  ⟨"site.space", { manifest := (Manifest.named "space").forPhases ["Pre-Add", "Add"],
                   task := pure () }⟩]

/-- A job with the phase `Add`. -/
def adding : Job Replay where
  assignment := { hostname := "router", logDir := "log", phase := some "Add" }
  session := some {}
  host := { files := { root := "/" } }

/-- The plugin that declares both phases is in both passes of an `Add`. -/
theorem byPhase_adds :
    adding.assignment.phase = some "Add" ∧
      (passes (phaseScan spaceAndAdd adding).1 "Add").map (·.descriptor.name)
        = ["space", "add", "space"] ∧
      ∃ run, InPasses spaceAndAdd adding "Add" run :=
  ⟨rfl, by decide, (byPhase_runs_passes spaceAndAdd adding "Add" rfl).1⟩

end Upkeep.Dispatch
