import Upkeep.CommandLine.Basic
import Upkeep.Proofs.Dispatch.Order
import Upkeep.Proofs.Plugin.Retained

/-! # Listings — what is shown is what an order can name

    A listing makes a catalog for a platform, a system and a phase.  A dispatch
    by an order makes another one, which is for the names of the order as well.
    Both give a name of the order to the same plugin, the first of the registry
    that is eligible and has the name: the criterion on names drops only plugins
    that no look-up asks for (`get?_build`).

    So a job whose order holds only names of the listing runs, and runs the
    plugins of the listing (`RunsListed`); any other job is refused. -/

namespace Upkeep

variable {σ : Type}

/-- A listing asks for what a job is for. -/
structure ListArguments.Suit (arguments : ListArguments) (assignment : Assignment) : Prop where
  platform : arguments.platform = assignment.platform
  os : arguments.os = assignment.os
  phase : arguments.phase = assignment.phase

namespace Dispatch

/-- The criteria of such a listing are what the plugins of the job's order have to be for. -/
theorem criteria_eq_wanted {arguments : ListArguments} {job : Job σ}
    (suit : arguments.Suit job.assignment) : arguments.criteria = wanted none job := by
  rw [ListArguments.criteria, wanted, suit.platform, suit.os, suit.phase]
  cases job.assignment.phase with
  | none => rfl
  | some phase => rfl

/-- A look-up in the catalog of the listing finds the plugin that provides the name for the job. -/
theorem get?_build (registry : Registry σ) {arguments : ListArguments} {job : Job σ}
    (suit : arguments.Suit job.assignment) (viewer : Job σ) (name : String) :
    (Catalog.build registry arguments.criteria viewer).1.get? name
      = registry.provider? (wanted none job) name := by
  rw [← criteria_eq_wanted suit]
  exact Catalog.get?_scan registry arguments.criteria name

/-- A name is provided for the job exactly if it is listed. -/
theorem provided_iff_listed (registry : Registry σ) {arguments : ListArguments} {job : Job σ}
    (suit : arguments.Suit job.assignment) (viewer : Job σ) (name : String) :
    registry.Provided (wanted none job) name ↔
      ∃ entry ∈ (Catalog.build registry arguments.criteria viewer).1.entries,
        entry.descriptor.name = name := by
  rw [← Registry.isSome_provider?, ← get?_build registry suit viewer, Option.isSome_iff_exists]
  constructor
  · rintro ⟨entry, hfound⟩
    exact ⟨entry, (Catalog.get?_eq_some_iff registry arguments.criteria name entry).mp hfound⟩
  · rintro ⟨entry, hlisted⟩
    exact ⟨entry, (Catalog.get?_eq_some_iff registry arguments.criteria name entry).mpr hlisted⟩

/-- The plan of a job all of whose order is provided: the warnings, and the plugins of the
    order. -/
def resolvedPlan (registry : Registry σ) (job : Job σ) (order : List String) : Plan σ :=
  { job := job.warnAll (orderScan registry none job).2
    entries := order.filterMap (registry.provider? (wanted none job)) }

variable [Session σ]

/-- What becomes of a job whose order holds only names of a listing, told by the run of the
    entries behind the order; there is only one (`Run.unique`). -/
structure RunsListed (listed : Catalog σ) (registry : Registry σ) (job : Job σ)
    (order : List String) (entries : List (CatalogEntry σ))
    (run : Run entries (job.warnAll (orderScan registry none job).2)) : Prop where
  /-- Every name of the order has the entry that the listing has under it. -/
  held : order.map listed.get? = entries.map some
  /-- The dispatch is the run of these entries and then the finalizing. -/
  dispatch : named registry none job = finish (run.result, run.final)
  /-- The `k`-th body that is started is that of the entry under the `k`-th name. -/
  starts : ∀ (k : Nat) (start : Start σ), run.starts[k]? = some start →
    ∃ name, order[k]? = some name ∧ listed.get? name = some start.entry
  /-- All of the order is run, or the first name that does not complete is that of the error. -/
  ends :
    (run.starts.map Start.entry = entries ∧
      (named registry none job).1 = .ok (job.executed ++ order)) ∨
    ∃ name entry error, order[run.done.length]? = some name ∧ listed.get? name = some entry ∧
      (named registry none job).1 = .error (.plugin name error) ∧ run.FailsAt entry error

section Resolving

variable {registry : Registry σ} {arguments : ListArguments} {job : Job σ} {order : List String}

/-- The dispatch of such a job is this plan, executed. -/
theorem named_of_resolves (ordered : job.assignment.order = some order)
    (resolves : ∀ name ∈ order, registry.Provided (wanted none job) name) :
    named registry none job = (resolvedPlan registry job order).execute := by
  rw [named_eq_execute, orderPlan_of_provided ordered resolves]
  rfl

/-- A job whose order holds only names of the listing runs the plugins of the listing. -/
theorem runs_listed (ordered : job.assignment.order = some order)
    (suit : arguments.Suit job.assignment) (viewer : Job σ)
    (resolves : ∀ name ∈ order, registry.Provided (wanted none job) name) :
    ∃ entries run, RunsListed (Catalog.build registry arguments.criteria viewer).1 registry job
      order entries run := by
  let plan := resolvedPlan registry job order
  let ran : Run plan.entries plan.job := run plan.entries plan.job
  have hget := get?_build registry suit viewer
  have hnames : plan.entries.map (·.descriptor.name) = order := names_of_provided resolves
  have hnamed : named registry none job = plan.execute := named_of_resolves ordered resolves
  have hplace : ∀ (k : Nat) (entry : CatalogEntry σ), plan.entries[k]? = some entry →
      order[k]? = some entry.descriptor.name ∧
        (Catalog.build registry arguments.criteria viewer).1.get? entry.descriptor.name
          = some entry := by
    intro k entry hk
    obtain ⟨hname, hprovider⟩ := getElem?_of_provided resolves hk
    exact ⟨hname, (hget _).trans hprovider⟩
  refine ⟨plan.entries, ran, ?_, ?_, ?_, ?_⟩
  · show order.map _ = plan.entries.map some
    rw [← hnames, List.map_map]
    refine List.map_congr_left ?_
    intro entry hentry
    obtain ⟨k, hk⟩ := List.mem_iff_getElem?.mp hentry
    exact (hplace k entry hk).2
  · rw [hnamed, plan.execute_eq ran]
    exact congrArg finish (settle_none _)
  · intro k start hk
    obtain ⟨hname, hfound⟩ := hplace k start.entry (ran.getElem?_starts k start hk)
    exact ⟨_, hname, hfound⟩
  · rw [hnamed]
    rcases plan.execute_ends ran with ⟨hno, hall, hok⟩ | ⟨entry, error, hk, herror, hfails⟩
    · have hflaw : plan.flaw = none := rfl
      have hexecuted : plan.job.executed = job.executed := Job.warnAll_executed _
      rw [hflaw, ran.all_names hall, hnames, hexecuted] at hok
      exact Or.inl ⟨(congrArg (List.map Start.entry) hno).trans hall, hok⟩
    · obtain ⟨hname, hfound⟩ := hplace _ entry hk
      exact Or.inr ⟨_, entry, error, hname, hfound, herror, hfails⟩

/-- A dispatch is refused for want of a name exactly if a name of the order is not provided. -/
theorem unresolved_iff (ordered : job.assignment.order = some order) :
    (∃ missing, (named registry none job).1 = .error (.unresolved missing)) ↔
      ∃ name ∈ order, ¬ registry.Provided (wanted none job) name := by
  constructor
  · rintro ⟨missing, hmissing⟩
    by_contra hall
    have resolves : ∀ name ∈ order, registry.Provided (wanted none job) name := by
      intro name hname
      by_contra hnot
      exact hall ⟨name, hname, hnot⟩
    rw [named_of_resolves ordered resolves] at hmissing
    -- a plan without a flaw succeeds, or fails with a plugin
    rcases (resolvedPlan registry job order).execute_ends (run _ _) with
      ⟨-, -, hok⟩ | ⟨entry, error, -, herror, -⟩
    · rw [hmissing] at hok
      exact nomatch hok
    · rw [hmissing] at herror
      exact nomatch herror
  · intro absent
    rw [named_eq_execute, orderPlan_of_absent ordered absent]
    exact ⟨_, rfl⟩

end Resolving

/-- **SHOWN**: a job fails for want of a name exactly if its order holds a name that the listing
    for the same platform, system and phase does not show; and otherwise every name of its order
    runs the plugin that the listing has under this name. -/
theorem named_resolves_listed (registry : Registry σ) (arguments : ListArguments)
    (viewer job : Job σ) (order : List String) (ordered : job.assignment.order = some order)
    (suit : arguments.Suit job.assignment) :
    ((∃ missing, (named registry none job).1 = .error (.unresolved missing)) ↔
      ∃ name ∈ order, ∀ entry ∈ (Catalog.build registry arguments.criteria viewer).1.entries,
        entry.descriptor.name ≠ name) ∧
    ((¬ ∃ missing, (named registry none job).1 = .error (.unresolved missing)) →
      ∃ entries run, RunsListed (Catalog.build registry arguments.criteria viewer).1 registry job
        order entries run) := by
  have hlisted := provided_iff_listed registry suit viewer
  rw [unresolved_iff ordered]
  constructor
  · refine exists_congr fun name => and_congr_right fun _ => ?_
    rw [hlisted]
    constructor
    · intro hnot entry hentry hname
      exact hnot ⟨entry, hentry, hname⟩
    · rintro hall ⟨entry, hentry, hname⟩
      exact hall entry hentry hname
  · intro hnone
    refine runs_listed ordered suit viewer ?_
    intro name hname
    by_contra hnot
    exact hnone ⟨name, hname, hnot⟩

/-- The listing of the copies for the system `XE`. -/
def listingCopies : ListArguments := { os := some "XE" }

/-- A job for this system with an order. -/
def copying (order : List String) : Job Replay where
  assignment := { hostname := "router", logDir := "log", os := some "XE", order := some order }
  session := some {}
  host := { files := { root := "/" } }

/-- The listing shows one copy: an order of two copies runs it twice, and an order that goes on
    with something else is refused. -/
theorem named_resolves_copies :
    (copying ["copy", "copy"]).assignment.order = some ["copy", "copy"] ∧
      listingCopies.Suit (copying ["copy", "copy"]).assignment ∧
      (∃ entries run, RunsListed
        (Catalog.build Catalog.copies listingCopies.criteria Catalog.resting).1 Catalog.copies
        (copying ["copy", "copy"]) ["copy", "copy"] entries run) ∧
      ∃ missing, (named Catalog.copies none (copying ["copy", "open"])).1
        = .error (.unresolved missing) := by
  have hshown : (Catalog.build Catalog.copies listingCopies.criteria Catalog.resting).1.entries.map
      (·.descriptor.name) = ["copy"] := by decide
  have hcopies := named_resolves_listed Catalog.copies listingCopies Catalog.resting
    (copying ["copy", "copy"]) ["copy", "copy"] rfl ⟨rfl, rfl, rfl⟩
  have hopen := named_resolves_listed Catalog.copies listingCopies Catalog.resting
    (copying ["copy", "open"]) ["copy", "open"] rfl ⟨rfl, rfl, rfl⟩
  refine ⟨rfl, ⟨rfl, rfl, rfl⟩, hcopies.2 ?_, hopen.1.mpr ⟨"open", by decide, ?_⟩⟩
  · rw [hcopies.1]
    rintro ⟨name, hmem, hnone⟩
    have hname : name = "copy" := by simpa using hmem
    obtain ⟨entry, hentry, hentryName⟩ : ∃ entry ∈
        (Catalog.build Catalog.copies listingCopies.criteria Catalog.resting).1.entries,
        entry.descriptor.name = "copy" := by
      rw [← List.mem_map, hshown]
      exact List.mem_singleton_self _
    exact hnone entry hentry (hentryName.trans hname.symm)
  · intro entry hentry hname
    have hmem := List.mem_map_of_mem (f := fun entry => entry.descriptor.name) hentry
    rw [hshown, hname] at hmem
    simp at hmem

end Dispatch

end Upkeep
