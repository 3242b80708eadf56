import Upkeep.Proofs.Dispatch.Agreement
import Upkeep.Proofs.Dispatch.Course

/-! # Own dispatches — what a job runs if it is left to itself

    A job that is dispatched by nothing but what it is asked to do runs its
    order if it has one, and else the plugins for its phase.  Which plugins
    these are is bounded by the job: by the names of the order, or by the names
    that it is restricted to if there are any (`ownPlan_order`,
    `ownPlan_restricted`).  What is run comes from the registry, and has the
    name that its manifest declares. -/

namespace Upkeep.Dispatch

variable {σ : Type} {registry : Registry σ} {job : Job σ} {entry : CatalogEntry σ}

/-- What a job that is left to itself has decided before it starts a body. -/
def ownPlan (registry : Registry σ) (job : Job σ) : Plan σ := Dispatcher.own.plan registry job

/-- With an order it is the plan of the order. -/
theorem ownPlan_of_order {order : List String} (ordered : job.assignment.order = some order) :
    ownPlan registry job = orderPlan registry none job := by
  refine if_pos ?_
  rw [ordered]
  rfl

/-- Without one it is the plan of the phase. -/
theorem ownPlan_of_unordered (unordered : job.assignment.order = none) :
    ownPlan registry job = phasePlan registry job := by
  refine if_neg ?_
  rw [unordered]
  exact Bool.false_ne_true

/-! ## Names -/

/-- What a catalog holds is named as its manifest declares. -/
theorem described_of_mem {criteria : Criteria}
    (h : entry ∈ (Catalog.scan registry criteria).1.entries) :
    entry.plugin.manifest.Describes entry.descriptor := by
  obtain ⟨place, hretains⟩ := ((Catalog.entries_byPlace registry criteria).mem_iff entry).mp h
  exact hretains.eligible.complete

/-- What the plan of a phase runs is in the catalog for the phase. -/
theorem mem_of_mem_phasePlan (h : entry ∈ (phasePlan registry job).entries) :
    entry ∈ (phaseScan registry job).1.entries := by
  rw [phasePlan] at h
  split at h
  · exact absurd h List.not_mem_nil
  · exact mem_of_mem_passes h

/-- What the plan of an order runs is in the catalog for the order. -/
theorem mem_of_mem_orderPlan {phases : Option (List String)}
    (h : entry ∈ (orderPlan registry phases job).entries) :
    entry ∈ (orderScan registry phases job).1.entries := by
  rw [orderPlan] at h
  split at h
  · obtain ⟨name, -, hget⟩ := List.mem_filterMap.mp h
    exact Catalog.mem_of_get? hget
  · exact absurd h List.not_mem_nil

/-- **SOURCE**: what is run is a plugin of the registry, under the name that it declares. -/
theorem ownPlan_declared (h : entry ∈ (ownPlan registry job).entries) :
    entry.registered ∈ registry ∧ entry.plugin.manifest.Describes entry.descriptor := by
  refine ⟨Dispatcher.own.plan_registered h, ?_⟩
  cases hordered : job.assignment.order with
  | none =>
      rw [ownPlan_of_unordered hordered] at h
      exact described_of_mem (mem_of_mem_phasePlan h)
  | some order =>
      rw [ownPlan_of_order hordered] at h
      exact described_of_mem (mem_of_mem_orderPlan h)

/-- **ORDER**: a job with an order runs the plugins with its names, one for each, or none. -/
theorem ownPlan_order {order : List String} (ordered : job.assignment.order = some order) :
    (ownPlan registry job).entries.map (·.descriptor.name) <+: order := by
  rw [ownPlan_of_order ordered]
  by_cases resolves : ∀ name ∈ order, registry.Provided (wanted none job) name
  · rw [orderPlan_of_provided ordered resolves]
    exact ⟨[], (List.append_nil _).trans (names_of_provided resolves)⟩
  · have absent : ∃ name ∈ order, ¬ registry.Provided (wanted none job) name := by
      simpa using resolves
    rw [orderPlan_of_absent ordered absent]
    exact List.nil_prefix

/-- **RESTRICTION**: a job without an order runs no plugin but those that it is restricted to. -/
theorem ownPlan_restricted (unordered : job.assignment.order = none)
    (restricted : job.assignment.nameFilter ≠ []) (h : entry ∈ (ownPlan registry job).entries) :
    entry.descriptor.name ∈ job.assignment.nameFilter := by
  rw [ownPlan_of_unordered unordered] at h
  obtain ⟨place, hretains⟩ :=
    ((Catalog.entries_byPlace registry _).mem_iff entry).mp (mem_of_mem_phasePlan h)
  have hdemand : Criteria.demand job.assignment.nameFilter
      = some (Names.ofList job.assignment.nameFilter) :=
    if_neg (by simpa using restricted)
  exact Names.mem_ofList.mp (hretains.eligible.meets.names _ hdemand)

/-! ## Dispatching -/

variable [Session σ]

/-- The run of a job that is left to itself. -/
abbrev OwnRun (registry : Registry σ) (job : Job σ) :=
  Run (ownPlan registry job).entries (ownPlan registry job).job

/-- Such a dispatch is its plan, executed. -/
theorem runJob_eq_execute (registry : Registry σ) (job : Job σ) :
    runJob registry job = (ownPlan registry job).execute := by
  rw [Plan.execute, ownPlan, ← Dispatcher.working_eq]
  exact Dispatcher.own.dispatch_eq registry job

/-- What becomes of a job that is left to itself, told by its run; there is only one
    (`Run.unique`). -/
structure LeftAlone (registry : Registry σ) (job : Job σ) (run : OwnRun registry job) : Prop where
  /-- The dispatch is the run, the complaint about the plan if there is one, and the finalizing. -/
  dispatch : runJob registry job =
    finish (settle (ownPlan registry job).flaw (run.result, run.final))
  /-- What is started is a plugin of the registry, under the name that it declares. -/
  declared : ∀ start ∈ run.starts, start.entry.registered ∈ registry ∧
    start.entry.plugin.manifest.Describes start.entry.descriptor
  /-- With an order, the `k`-th body has the `k`-th name. -/
  order : ∀ order, job.assignment.order = some order → ∀ (k : Nat) (start : Start σ),
    run.starts[k]? = some start → order[k]? = some start.name
  /-- Without one, all bodies have names that the job is restricted to, if there are any. -/
  restricted : job.assignment.order = none → job.assignment.nameFilter ≠ [] →
    ∀ start ∈ run.starts, start.name ∈ job.assignment.nameFilter
  /-- The `k`-th body is given the data of the `k`-th place from the job's on. -/
  data : ∀ (k : Nat) (start : Start σ), run.starts[k]? = some start →
    start.job.pluginData? = if job.number + k = 0 then none else job.data[job.number + k - 1]?

/-- A job that is left to itself has a run. -/
theorem leftAlone (registry : Registry σ) (job : Job σ) :
    ∃ run, LeftAlone registry job run := by
  let ran : OwnRun registry job := run _ _
  have hplanned {start : Start σ} (h : start ∈ ran.starts) :
      start.entry ∈ (ownPlan registry job).entries :=
    ran.starts_prefix.subset (List.mem_map_of_mem h)
  refine ⟨ran, ?_, ?_, ?_, ?_, ?_⟩
  · rw [runJob_eq_execute, Plan.execute_eq _ ran]
  · exact fun start hstart => ownPlan_declared (hplanned hstart)
  · intro order hordered k start hk
    obtain ⟨more, hmore⟩ := ran.starts_names.trans (ownPlan_order hordered)
    have hname : (ran.starts.map Start.name)[k]? = some start.name := by
      rw [List.getElem?_map, hk]
      rfl
    obtain ⟨hlt, -⟩ := List.getElem?_eq_some_iff.mp hname
    rw [← hmore, List.getElem?_append_left hlt]
    exact hname
  · exact fun hunordered hfilter start hstart =>
      ownPlan_restricted hunordered hfilter (hplanned hstart)
  · intro k start hk
    -- a plan changes nothing of the job but its host
    obtain ⟨host, hplan, -⟩ := Dispatcher.own.plan_reported registry job
    have hsees := ran.sees k start hk
    rw [ownPlan, hplan] at hsees
    exact hsees.pluginData?

/-- **PHASE**: a job that has an order or a phase does not fail for the lack of a phase. -/
theorem runJob_phased (registry : Registry σ)
    (asked : job.assignment.order.isSome = true ∨ job.assignment.phase.isSome = true) :
    (runJob registry job).1 ≠ .error .missingPhase := by
  have hflaw : (ownPlan registry job).flaw ≠ some .missingPhase := by
    cases hordered : job.assignment.order with
    | some order =>
        rw [ownPlan_of_order hordered, orderPlan]
        split
        · rintro ⟨⟩
        · rintro ⟨⟩
    | none =>
        obtain ⟨phase, hphase⟩ := Option.isSome_iff_exists.mp
          (asked.resolve_left (by rw [hordered]; exact Bool.false_ne_true))
        rw [ownPlan_of_unordered hordered, phasePlan_of_phase hphase, lack]
        split
        · rintro ⟨⟩
        · rintro ⟨⟩
  rw [runJob_eq_execute]
  -- what fails otherwise is a plugin
  rcases (ownPlan registry job).execute_ends (run _ _) with ⟨-, -, hresult⟩ | ⟨_, _, -, hresult, -⟩
  · rw [hresult]
    cases hsome : (ownPlan registry job).flaw with
    | none => rintro ⟨⟩
    | some flaw =>
        intro hsame
        obtain rfl := Except.error.inj hsame
        exact hflaw hsome
  · rw [hresult]
    rintro ⟨⟩

end Upkeep.Dispatch
