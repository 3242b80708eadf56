import Upkeep.Proofs.Dispatch.Alike
import Upkeep.Proofs.Dispatch.Order
import Upkeep.Proofs.Dispatch.Phase
import Upkeep.Proofs.Plugin.Blind
import Upkeep.Proofs.Plugin.Retained

/-! # Agreement — a phase, and the order of its plugins

    A job with a phase can be given the names of the plugins of its two passes
    as an order.  The dispatch by this order makes another catalog: for these
    names instead of the job's restriction, and it looks every name up instead of
    selecting.  It comes by the same plugins all the same, since the first
    eligible plugin of a name is the first with either criteria
    (`orderPlan_of_passes`).

    So either dispatch runs the same entries, on jobs that differ in how they
    were asked for their work and in what they have been told of their catalogs.
    Such jobs are alike, and so are the runs (`Run.alike`).  The session is a
    recorded one, so that the calls to the device can be compared. -/

namespace Upkeep

variable {σ : Type}

/-! ## Two catalogs -/

/-- Who provides a name under a criterion on names provides it without the criterion. -/
theorem Registry.provider?_of_forNames {registry : Registry σ} (criteria : Criteria)
    (open_ : criteria.names = none) {names : List String} {name : String}
    {kept : CatalogEntry σ}
    (h : registry.provider? (criteria.forNames names) name = some kept) :
    registry.provider? criteria name = some kept := by
  by_cases hnames : names = []
  · -- no names are no criterion
    have hsame : criteria.forNames names = criteria := by
      obtain ⟨_, _, _, _⟩ := criteria
      obtain rfl := open_
      rw [hnames]
      rfl
    rwa [hsame] at h
  · have hname := provider?_name h
    obtain ⟨entry, -, heligible⟩ := List.mem_filterMap.mp (List.mem_of_find?_eq_some h)
    rw [RegistryEntry.eligible?_forNames criteria open_ hnames] at heligible
    have hasked : names.contains kept.descriptor.name = true :=
      (Option.filter_eq_some_iff.mp heligible).2
    rw [hname, List.contains_iff_mem] at hasked
    rw [provider?_forNames registry criteria open_ hasked] at h
    exact h

/-- Whether a plugin is left out because its name is taken. -/
def Complaint.isDuplicate : Complaint → Bool
  | .incomplete _ _ => false
  | .duplicate _ _ => true

/-- The complaint about a plugin that is incomplete, whatever is asked for. -/
def RegistryEntry.incomplete (entry : RegistryEntry σ) : List Complaint :=
  match entry.plugin.manifest.describe with
  | .error missing => [.incomplete entry.id missing]
  | .ok _ => []

/-- A complete plugin is complained about only if its name is taken. -/
theorem Catalog.incomplete_step (criteria : Criteria) (state : Catalog σ × List Complaint)
    (entry : RegistryEntry σ) : (step criteria state entry).2.filter (!·.isDuplicate)
      = state.2.filter (!·.isDuplicate) ++ entry.incomplete := by
  rw [step, consider, RegistryEntry.incomplete]
  cases entry.plugin.manifest.describe with
  | error missing => exact List.filter_append ..
  | ok descriptor =>
      by_cases hadmits : criteria.admits descriptor = true
      · by_cases hkept : state.1.has descriptor.name = true
        · simp [hadmits, hkept, Complaint.isDuplicate]
        · simp [hadmits, hkept]
      · simp [hadmits]

/-- Which plugins are incomplete does not depend on what is asked for. -/
theorem Catalog.incomplete_scan (registry : Registry σ) (criteria other : Criteria) :
    (scan registry criteria).2.filter (!·.isDuplicate)
      = (scan registry other).2.filter (!·.isDuplicate) := by
  induction registry using List.reverseRecOn with
  | nil =>
      show ([] : List Complaint).filter (!·.isDuplicate) = [].filter (!·.isDuplicate)
      rfl
  | append_singleton registry entry ih =>
      rw [scan_concat, scan_concat, incomplete_step, incomplete_step, ih]

/-- The job with an order. -/
def Job.withOrder (order : List String) (job : Job σ) : Job σ :=
  { job with assignment := { job.assignment with order := some order } }

namespace Dispatch

/-- The names of the plugins for a phase, those of the preparatory pass first. -/
def phaseOrder (registry : Registry σ) (job : Job σ) (phase : String) : List String :=
  (passes (phaseScan registry job).1 phase).map (·.descriptor.name)

section Plans

variable {registry : Registry σ} {job : Job σ} {phase : String} {entry : CatalogEntry σ}

/-- What the passes run is in the catalog. -/
theorem mem_of_mem_passes {catalog : Catalog σ} (h : entry ∈ passes catalog phase) :
    entry ∈ catalog.entries := by
  rw [passes, preparing_eq] at h
  rcases List.mem_append.mp h with hbefore | hphase
  · split at hbefore
    · exact (List.mem_filter.mp hbefore).1
    · cases hbefore
  · exact (List.mem_filter.mp hphase).1

/-- A plugin of the passes is in the registry. -/
theorem registered_of_mem_passes (h : entry ∈ passes (phaseScan registry job).1 phase) :
    entry.registered ∈ registry :=
  (Catalog.scan_sublist registry _).subset (List.mem_map_of_mem (mem_of_mem_passes h))

/-- A plugin of the passes is the one that provides its name, whatever phase it is asked for. -/
theorem provider?_of_mem_passes (h : entry ∈ passes (phaseScan registry job).1 phase) :
    registry.provider? (wanted (some []) job) entry.descriptor.name = some entry := by
  have hfound := (Catalog.get?_eq_some_iff registry _ entry.descriptor.name entry).mpr
    ⟨mem_of_mem_passes h, rfl⟩
  rw [Catalog.get?_scan] at hfound
  exact Registry.provider?_of_forNames (wanted (some []) job) rfl hfound

/-- **ONE PLAN**: the order of the passes, for any phase, has the plan of the passes. -/
theorem orderPlan_of_passes (registry : Registry σ) (job : Job σ) (phase : String) :
    orderPlan registry (some []) (job.withOrder (phaseOrder registry job phase)) =
      { job := (job.withOrder (phaseOrder registry job phase)).warnAll
          (orderScan registry (some []) (job.withOrder (phaseOrder registry job phase))).2
        entries := passes (phaseScan registry job).1 phase } := by
  have hentries : (phaseOrder registry job phase).filterMap
      (registry.provider? (wanted (some []) job)) = passes (phaseScan registry job).1 phase := by
    rw [phaseOrder, List.filterMap_map]
    refine (List.filterMap_congr fun entry hentry => ?_).trans List.filterMap_some
    exact provider?_of_mem_passes hentry
  have resolves : ∀ name ∈ phaseOrder registry job phase,
      registry.Provided (wanted (some []) job) name := by
    intro name hname
    obtain ⟨entry, hentry, rfl⟩ := List.mem_map.mp hname
    rw [← Registry.isSome_provider?, provider?_of_mem_passes hentry]
    rfl
  have hplan : orderPlan registry (some []) (job.withOrder (phaseOrder registry job phase)) = _ :=
    orderPlan_of_provided rfl resolves
  rw [hplan]
  exact congrArg (Plan.mk _ · none) hentries

/-- Apart from the warnings, a job with a phase is told one thing at most, and only for the
    journal. -/
theorem told_eq (registry : Registry σ) (phase : String) (job : Job σ) :
    told registry phase job = job.warnAll (phaseScan registry job).2 ∨
      ∃ message, told registry phase job
        = (job.warnAll (phaseScan registry job).2).log .info message := by
  rw [told, skipping]
  split
  · exact Or.inl rfl
  · split
    · exact Or.inr ⟨_, rfl⟩
    · exact Or.inl rfl

end Plans

/-- The job when it has been warned of what the catalog for its order leaves out. -/
def warned (registry : Registry σ) (job : Job σ) : Job σ :=
  job.warnAll (orderScan registry (some []) job).2

/-- What either job has been told of its catalog is a matter of its past. -/
theorem told_alike_warned (registry : Registry σ) (phase : String) (job : Job σ)
    (order : List String) :
    Job.Alike (told registry phase job).past (warned registry (job.withOrder order)).past
      (told registry phase job) (warned registry (job.withOrder order)) := by
  have hwarned : (warned registry (job.withOrder order)).plain = job.plain :=
    Job.plain_warnAll (orderScan registry (some []) (job.withOrder order)).2 (job.withOrder order)
  have htold : (told registry phase job).plain = job.plain := by
    rcases told_eq registry phase job with h | ⟨message, h⟩
    · rw [h, Job.plain_warnAll]
    · rw [h, Job.plain_log, Job.plain_warnAll]
  exact Job.alike_of_plain (hwarned.trans htold.symm)

/-- The lines that a job keeps of its catalog. -/
def catalogLines (complaints : List Complaint) (job : Job σ) : List String :=
  if job.host.board.keeps then complaints.map (job.warningLine ·.message) else []

/-- A job keeps the lines of its catalog behind those that it had. -/
theorem jobInfo_warnAll (complaints : List Complaint) (job : Job σ) :
    (job.warnAll complaints).past.jobInfo = job.past.jobInfo ++ catalogLines complaints job := by
  rw [Job.past, Job.warnAll_board, Job.jobInfo_foldl_save]
  rfl

/-! ## Two dispatches -/

/-- Two bodies that are started agree: they are of one plugin, at one place of the sequence and
    with the same data, and the same calls have been made before. -/
structure Start.Agrees (start other : Start (Recorded σ)) : Prop where
  entry : other.entry = start.entry
  number : other.job.number = start.job.number
  data : other.job.pluginData? = start.job.pluginData?
  calls : other.job.calls = start.job.calls

theorem Start.Alike.agrees {first second : Past} {start other : Start (Recorded σ)}
    (h : start.Alike first second other) : start.Agrees other :=
  ⟨h.entry, h.job.number, h.job.pluginData?, h.job.calls⟩

/-- Two dispatches on jobs with these pasts come to the same: result and job are the same, but for
    the pasts and for how the work was asked for. -/
structure SameEnd (first second : Past)
    (ended other : Except DispatchError (List String) × Job (Recorded σ)) : Prop where
  result : other.1 = ended.1
  executed : other.2.executed = ended.2.executed
  store : other.2.store = ended.2.store
  calls : other.2.calls = ended.2.calls
  rest : Job.Alike first second ended.2 other.2

variable [Session σ]

/-- What the dispatch of a job by its phase and that by an order of the same plugins have in
    common, told by their runs; there is only one of either (`Run.unique`). -/
structure Agree (registry : Registry (Recorded σ)) (job : Job (Recorded σ)) (phase : String)
    (order : List String)
    (phased : Run (passes (phaseScan registry job).1 phase) (told registry phase job))
    (ordered : Run (passes (phaseScan registry job).1 phase)
      (warned registry (job.withOrder order))) : Prop where
  /-- Either dispatch is its run and then the finalizing. -/
  phaseRuns : byPhase registry job = finish (phased.result, phased.final)
  orderRuns : named registry (some []) (job.withOrder order)
    = finish (ordered.result, ordered.final)
  /-- The same plugins are started in the same order, at the same places and with the same
      data. -/
  starts : List.Forall₂ Start.Agrees phased.starts ordered.starts
  /-- What the jobs have been told of their catalogs is all that tells the ends apart. -/
  ends : SameEnd (told registry phase job).past (warned registry (job.withOrder order)).past
    (byPhase registry job) (named registry (some []) (job.withOrder order))
  /-- The lines kept are those of the two catalogs, and then the same. -/
  lines : ∃ more,
    (byPhase registry job).2.past.jobInfo
      = job.past.jobInfo ++ catalogLines (phaseScan registry job).2 job ++ more ∧
    (named registry (some []) (job.withOrder order)).2.past.jobInfo
      = job.past.jobInfo ++ catalogLines
        (orderScan registry (some []) (job.withOrder order)).2 job ++ more
  /-- The catalogs complain of the same plugins, but for those whose name is taken. -/
  incomplete : (orderScan registry (some []) (job.withOrder order)).2.filter (!·.isDuplicate)
    = (phaseScan registry job).2.filter (!·.isDuplicate)

/-- **AGREEMENT**: a job with a phase that some plugin declares comes to the same if it is given
    the names of the plugins of its passes as an order, as long as no body looks at the order or
    at the restriction to some names. -/
theorem order_agrees_with_phase (registry : Registry (Recorded σ)) (job : Job (Recorded σ))
    (phase : String) (phased : job.assignment.phase = some phase)
    (declared : (phaseScan registry job).1.declaring phase ≠ [])
    (blind : ∀ entry ∈ registry, entry.plugin.task.Blind) :
    ∃ phaseRun orderRun, Agree registry job phase (phaseOrder registry job phase)
      phaseRun orderRun := by
  let order := phaseOrder registry job phase
  let entries := passes (phaseScan registry job).1 phase
  let phaseRun : Run entries (told registry phase job) := run _ _
  let orderRun : Run entries (warned registry (job.withOrder order)) := run _ _
  have hphase : byPhase registry job = finish (phaseRun.result, phaseRun.final) := by
    have hlack : lack (phaseScan registry job).1 phase = none := if_neg declared
    rw [byPhase_eq_execute, phasePlan_of_phase phased, hlack, Plan.execute_eq _ phaseRun,
      settle_none]
  have horder : named registry (some []) (job.withOrder order)
      = finish (orderRun.result, orderRun.final) := by
    rw [named_eq_execute, orderPlan_of_passes, Plan.execute_eq _ orderRun, settle_none]
  obtain ⟨hstarts, hresult, hfinal⟩ := phaseRun.alike orderRun
    (told_alike_warned registry phase job order)
    (fun entry hentry => blind _ (registered_of_mem_passes hentry))
  -- the runs have one result, so both dispatches finish with it
  have horderEnd : named registry (some []) (job.withOrder order)
      = finish (phaseRun.result, orderRun.final) := by rw [horder, hresult]
  obtain ⟨hend, hrest⟩ := finish_alike hfinal phaseRun.result
  rw [← hphase, ← horderEnd] at hend hrest
  obtain ⟨more, hphaseLines, horderLines⟩ := hrest.jobInfo
  have htold : (told registry phase job).past.jobInfo
      = job.past.jobInfo ++ catalogLines (phaseScan registry job).2 job := by
    rw [← jobInfo_warnAll]
    rcases told_eq registry phase job with h | ⟨message, h⟩
    · rw [h]
    · rw [h, Job.past_log_jobInfo]
  have hwarned : (warned registry (job.withOrder order)).past.jobInfo = job.past.jobInfo ++
      catalogLines (orderScan registry (some []) (job.withOrder order)).2 job :=
    jobInfo_warnAll _ (job.withOrder order)
  refine ⟨phaseRun, orderRun, hphase, horder, hstarts.imp fun _ _ h => h.agrees,
    ⟨hend, hrest.executed, hrest.store, hrest.calls, hrest⟩, ⟨more, ?_, ?_⟩,
    Catalog.incomplete_scan registry _ _⟩
  · rw [hphaseLines, htold]
  · rw [horderLines, hwarned]

/-- The built-in plugins, one that prepares and takes part in an activation, two whose names are
    taken, and one without a name. -/
def activationPlugins : Registry (Recorded Replay) := Registry.builtin ++ [
  ⟨"site.space", { manifest := (Manifest.named "space").forPhases ["Pre-Activate", "Activate"],
                   task := do
                     Task.overSession .session (Link.call (Session.send "delete old"))
                     Task.save "space" (.text "freed") }⟩,
  ⟨"site.backup", { manifest := (Manifest.named "Config Backup").forPhases ["Activate"],
                    task := pure () }⟩,
  ⟨"site.status", { manifest := (Manifest.named "Node Status Check").forPhases ["Activate"],
                    task := pure () }⟩,
  ⟨"site.blank", { manifest := .named " ", task := pure () }⟩]

/-- A job with the phase `Activate`. -/
def activating : Job (Recorded Replay) where
  assignment := { hostname := "router", logDir := "log", phase := some "Activate",
                  platform := some "ASR900", os := some "XE" }
  session := some ⟨{}, []⟩
  host := { files := { root := "/" } }

/-- The activation agrees with its order, in which the plugin for both phases stands twice. The
    catalog of the order does not come across the second status check. -/
theorem order_agrees_activating :
    activating.assignment.phase = some "Activate" ∧
      (phaseScan activationPlugins activating).1.declaring "Activate" ≠ [] ∧
      (∀ entry ∈ activationPlugins, entry.plugin.task.Blind) ∧
      phaseOrder activationPlugins activating "Activate"
        = ["Config Backup", "space", "Install Activate", "space"] ∧
      ∃ phaseRun orderRun, Agree activationPlugins activating "Activate"
        (phaseOrder activationPlugins activating "Activate") phaseRun orderRun := by
  have hnames : ((phaseScan activationPlugins activating).1.declaring "Activate").map
      (·.descriptor.name) = ["Install Activate", "space"] := by decide
  have declared : (phaseScan activationPlugins activating).1.declaring "Activate" ≠ [] := by
    intro hnone
    rw [hnone] at hnames
    exact nomatch hnames
  have blind : ∀ entry ∈ activationPlugins, entry.plugin.task.Blind := by
    intro entry hentry
    rcases List.mem_append.mp hentry with hbuiltin | hsite
    · exact builtin_blind entry hbuiltin
    · simp only [List.mem_cons, List.not_mem_nil, or_false] at hsite
      rcases hsite with rfl | rfl | rfl | rfl
      · exact .bind (.overSession _ (.call _)) fun _ => .save _ _
      · exact .pure ()
      · exact .pure ()
      · exact .pure ()
  exact ⟨rfl, declared, blind, by decide, order_agrees_with_phase _ _ _ rfl declared blind⟩

end Dispatch

end Upkeep
