import Mathlib.Data.List.Basic
import Mathlib.Data.List.Induction
import Upkeep.Proofs.Dispatch.Plan
import Upkeep.Session.Replay

/-! # Orders — all of the order, or nothing

    An order names plugins, one after the other and as often as it likes.  If
    every name resolves, the bodies that are started are those of a prefix of
    the order, one for each occurrence (`InOrder`).  If one name does not,
    nothing is started at all: the dispatch names what is missing and lets go
    of the job (`Refused`).

    Between the two stands `missingNames`: the names that do not resolve, each
    once, by their first places in the order. -/

namespace Upkeep.Dispatch

variable {σ : Type}

/-! ## Missing names -/

/-- One name more at the end of an order. -/
theorem missingNames_concat (catalog : Catalog σ) (order : List String) (name : String) :
    missingNames catalog (order ++ [name])
      = if (catalog.get? name).isNone = true ∧ name ∉ missingNames catalog order then
          missingNames catalog order ++ [name]
        else missingNames catalog order := by
  have hsplit : missingNames catalog (order ++ [name])
      = ([name].filter fun name => (catalog.get? name).isNone).foldl
          (fun missing name => if missing.contains name then missing else missing ++ [name])
          (missingNames catalog order) := by
    rw [missingNames, List.filter_append, List.foldl_append]
    rfl
  rw [hsplit]
  by_cases hnone : (catalog.get? name).isNone = true
  · have hsingle : [name].filter (fun name => (catalog.get? name).isNone) = [name] := by
      simp only [List.filter_cons, hnone, ↓reduceIte, List.filter_nil]
    rw [hsingle, List.foldl_cons, List.foldl_nil]
    simp only [hnone, true_and, List.contains_iff_mem, ite_not]
  · have hsingle : [name].filter (fun name => (catalog.get? name).isNone) = [] := by
      simp only [List.filter_cons, hnone, Bool.false_eq_true, ↓reduceIte, List.filter_nil]
    rw [hsingle, List.foldl_nil, if_neg (fun h => hnone h.1)]

/-- The missing names are those of the order that the catalog does not have. -/
theorem mem_missingNames (catalog : Catalog σ) (order : List String) (name : String) :
    name ∈ missingNames catalog order ↔ name ∈ order ∧ (catalog.get? name).isNone = true := by
  induction order using List.reverseRecOn with
  | nil => simp [missingNames]
  | append_singleton order other ih =>
      rw [missingNames_concat, List.mem_append, List.mem_singleton]
      by_cases hadd : (catalog.get? other).isNone = true ∧ other ∉ missingNames catalog order
      · rw [if_pos hadd, List.mem_append, List.mem_singleton, ih]
        constructor
        · rintro (⟨hmem, hnone⟩ | rfl)
          · exact ⟨Or.inl hmem, hnone⟩
          · exact ⟨Or.inr rfl, hadd.1⟩
        · rintro ⟨hmem | rfl, hnone⟩
          · exact Or.inl ⟨hmem, hnone⟩
          · exact Or.inr rfl
      · rw [if_neg hadd, ih]
        constructor
        · rintro ⟨hmem, hnone⟩
          exact ⟨Or.inl hmem, hnone⟩
        · rintro ⟨hmem | rfl, hnone⟩
          · exact ⟨hmem, hnone⟩
          · -- it is missing and was not added, so it was there before
            have hthere : name ∈ missingNames catalog order := by
              by_contra hnot
              exact hadd ⟨hnone, hnot⟩
            exact ih.mp hthere

/-- The missing names stand by their first places in the order, so each is there once. -/
theorem missingNames_sorted (catalog : Catalog σ) (order : List String) :
    (missingNames catalog order).Pairwise fun a b => order.idxOf a < order.idxOf b := by
  induction order using List.reverseRecOn with
  | nil => exact List.Pairwise.nil
  | append_singleton order other ih =>
      have hplace : ∀ name ∈ missingNames catalog order,
          (order ++ [other]).idxOf name = order.idxOf name := by
        intro name hname
        have hmem := ((mem_missingNames catalog order name).mp hname).1
        rw [List.idxOf_append, if_pos hmem]
      have hsorted : (missingNames catalog order).Pairwise fun a b =>
          (order ++ [other]).idxOf a < (order ++ [other]).idxOf b := by
        refine ih.imp_of_mem ?_
        intro a b ha hb hlt
        rw [hplace a ha, hplace b hb]
        exact hlt
      rw [missingNames_concat]
      by_cases hadd : (catalog.get? other).isNone = true ∧ other ∉ missingNames catalog order
      · rw [if_pos hadd]
        refine List.pairwise_append.mpr ⟨hsorted, List.pairwise_singleton _ _, ?_⟩
        intro a ha b hb
        obtain rfl := List.mem_singleton.mp hb
        -- the name is new, so its first place is behind all of the order
        have hnew : b ∉ order := by
          intro hmem
          exact hadd.2 ((mem_missingNames catalog order b).mpr ⟨hmem, hadd.1⟩)
        have hin := ((mem_missingNames catalog order a).mp ha).1
        rw [hplace a ha, List.idxOf_append, if_neg hnew]
        have hlt := List.idxOf_lt_length_iff.mpr hin
        omega
      · rw [if_neg hadd]
        exact hsorted

/-! ## The plan of an order -/

section Plan

variable {registry : Registry σ} {phases : Option (List String)} {job : Job σ}
  {order : List String}

/-- For a name of the order, the catalog finds the first plugin of the registry that is complete,
    fits the job and has the name. -/
theorem get?_orderScan (ordered : job.assignment.order = some order) {name : String}
    (h : name ∈ order) :
    (orderScan registry phases job).1.get? name
      = registry.provider? (wanted phases job) name := by
  rw [orderScan, ordered, Option.getD_some, Catalog.get?_scan]
  exact registry.provider?_forNames (wanted phases job) rfl h

/-- What is missing are the names of the order that nothing provides. -/
theorem mem_unresolved (ordered : job.assignment.order = some order) (name : String) :
    name ∈ missingNames (orderScan registry phases job).1 order
      ↔ name ∈ order ∧ ¬ registry.Provided (wanted phases job) name := by
  rw [mem_missingNames]
  refine and_congr_right ?_
  intro hmem
  rw [get?_orderScan ordered hmem, ← Registry.isSome_provider?]
  simp

/-- If every name resolves, the plan is the order, each name with its plugin. -/
theorem orderPlan_of_provided (ordered : job.assignment.order = some order)
    (resolves : ∀ name ∈ order, registry.Provided (wanted phases job) name) :
    orderPlan registry phases job =
      { job := job.warnAll (orderScan registry phases job).2
        entries := order.filterMap (registry.provider? (wanted phases job)) } := by
  have hmissing : missingNames (orderScan registry phases job).1 order = [] := by
    refine List.eq_nil_iff_forall_not_mem.mpr ?_
    intro name hname
    obtain ⟨hmem, hnot⟩ := (mem_unresolved ordered name).mp hname
    exact hnot (resolves name hmem)
  have hentries : order.filterMap (orderScan registry phases job).1.get?
      = order.filterMap (registry.provider? (wanted phases job)) :=
    List.filterMap_congr fun name hname => get?_orderScan ordered hname
  rw [orderPlan]
  simp only [ordered, Option.getD_some, hmissing, List.isEmpty_nil, ↓reduceIte, hentries]

/-- The plugins of such a plan have the names of the order. -/
theorem names_of_provided (resolves : ∀ name ∈ order, registry.Provided (wanted phases job) name) :
    (order.filterMap (registry.provider? (wanted phases job))).map (·.descriptor.name)
      = order := by
  induction order with
  | nil => rfl
  | cons name rest ih =>
      have hsome := (registry.isSome_provider? _ name).mpr (resolves name List.mem_cons_self)
      obtain ⟨entry, hentry⟩ := Option.isSome_iff_exists.mp hsome
      rw [List.filterMap_cons_some hentry, List.map_cons, Registry.provider?_name hentry]
      congr 1
      exact ih fun other hother => resolves other (List.mem_cons_of_mem _ hother)

/-- If a name does not resolve, the plan is empty and its flaw is what is missing. -/
theorem orderPlan_of_absent (ordered : job.assignment.order = some order)
    (absent : ∃ name ∈ order, ¬ registry.Provided (wanted phases job) name) :
    orderPlan registry phases job =
      { job := job.warnAll (orderScan registry phases job).2
        flaw := some (.unresolved (missingNames (orderScan registry phases job).1 order)) } := by
  obtain ⟨name, hmem, hnot⟩ := absent
  have hmissing : (missingNames (orderScan registry phases job).1 order).isEmpty = false := by
    have hname := (mem_unresolved ordered name).mpr ⟨hmem, hnot⟩
    cases hlist : missingNames (orderScan registry phases job).1 order with
    | nil =>
        rw [hlist] at hname
        exact nomatch hname
    | cons other rest => rfl
  simp only [orderPlan, ordered, Option.getD_some, hmissing, Bool.false_eq_true, ↓reduceIte]

/-- The plugin at a place of such a plan provides the name at this place of the order. -/
theorem getElem?_of_provided
    (resolves : ∀ name ∈ order, registry.Provided (wanted phases job) name)
    {k : Nat} {entry : CatalogEntry σ}
    (hk : (order.filterMap (registry.provider? (wanted phases job)))[k]? = some entry) :
    order[k]? = some entry.descriptor.name ∧
      registry.provider? (wanted phases job) entry.descriptor.name = some entry := by
  have hname := congrArg (·[k]?) (names_of_provided resolves)
  simp only [List.getElem?_map, hk, Option.map_some] at hname
  refine ⟨hname.symm, ?_⟩
  obtain ⟨name, -, hprovider⟩ := List.mem_filterMap.mp (List.mem_of_getElem? hk)
  rw [Registry.provider?_name hprovider]
  exact hprovider

end Plan

/-! ## Orders that resolve -/

variable [Session σ]

/-- What becomes of an order all of whose names resolve, told by the run of its plugins on the
    job when it has been warned of what the catalog leaves out; there is only one (`Run.unique`). -/
structure InOrder (registry : Registry σ) (phases : Option (List String)) (job : Job σ)
    (order : List String)
    (run : Run (order.filterMap (registry.provider? (wanted phases job)))
      (job.warnAll (orderScan registry phases job).2)) : Prop where
  /-- The dispatch is the run and then the finalizing. -/
  dispatch : named registry phases job = finish (run.result, run.final)
  /-- The bodies that are started are those of a prefix of the order. -/
  starts : run.starts.map Start.name <+: order
  /-- The `k`-th body is that of the plugin for the `k`-th name. It finds this name, the `k`-th
      place from the job's on, and the data of this place. -/
  view : ∀ (k : Nat) (start : Start σ), run.starts[k]? = some start →
    registry.provider? (wanted phases job) start.name = some start.entry ∧
    start.job.current = order[k]? ∧ start.job.number = job.number + k ∧
    start.job.pluginData? =
      if job.number + k = 0 then none else job.data[job.number + k - 1]?
  /-- All bodies that have completed succeeded. -/
  succeed : ∀ start ∈ run.done, start.result = .ok ()
  /-- All of the order completes, or the first name that does not is that of the error. -/
  ends :
    (run.starts = run.done ∧ run.done.map Start.name = order ∧
      (named registry phases job).1 = .ok (job.executed ++ order)) ∨
    ∃ name entry error, order[run.done.length]? = some name ∧
      registry.provider? (wanted phases job) name = some entry ∧
      (named registry phases job).1 = .error (.plugin name error) ∧ run.FailsAt entry error
  /-- Exactly the names that have completed are put on the account. -/
  executed : (named registry phases job).2.executed =
    job.executed ++ order.take run.done.length
  /-- The place moves on with each of them. -/
  number : (named registry phases job).2.number = job.number + run.done.length

/-- **ORDER**: if all names of an order resolve, the dispatch starts the plugins of the order one
    after the other, up to its end or to the first that fails. -/
theorem named_runs_prefix_of_order (registry : Registry σ) (phases : Option (List String))
    (job : Job σ) (order : List String) (ordered : job.assignment.order = some order)
    (resolves : ∀ name ∈ order, registry.Provided (wanted phases job) name) :
    ∃ run, InOrder registry phases job order run := by
  let plan : Plan σ :=
    { job := job.warnAll (orderScan registry phases job).2
      entries := order.filterMap (registry.provider? (wanted phases job)) }
  let ran : Run plan.entries plan.job := run plan.entries plan.job
  have hnames : plan.entries.map (·.descriptor.name) = order := names_of_provided resolves
  have hnamed : named registry phases job = plan.execute := by
    rw [named_eq_execute, orderPlan_of_provided ordered resolves]
  have hdone : ran.done.map Start.name = order.take ran.done.length :=
    ran.done_names.trans (congrArg (List.take _) hnames)
  have hstarts := ran.starts_names
  rw [hnames] at hstarts
  have haccount := (accounted_warnAll _ job).trans (plan.execute_accounted ran)
  rw [hdone, ← hnamed] at haccount
  refine ⟨ran, ?_, hstarts, ?_, ran.completes.succeed, ?_, haccount.executed, ?_⟩
  · rw [hnamed, plan.execute_eq ran, settle_none]
  · intro k start hk
    have hsees := ran.sees k start hk
    obtain ⟨hname, hprovider⟩ := getElem?_of_provided resolves (ran.getElem?_starts k start hk)
    rw [Job.warnAll_number, Job.warnAll_data] at hsees
    exact ⟨hprovider, hsees.current.trans hname.symm, hsees.number, hsees.pluginData?⟩
  · rw [hnamed]
    rcases plan.execute_ends ran with ⟨hno, hall, hok⟩ | ⟨entry, error, hplace, herror, hfails⟩
    · have hall' := (ran.all_names hall).trans hnames
      rw [hall', Job.warnAll_executed] at hok
      exact Or.inl ⟨hno, hall', hok⟩
    · obtain ⟨hname, hprovider⟩ := getElem?_of_provided resolves hplace
      exact Or.inr ⟨_, entry, error, hname, hprovider, herror, hfails⟩
  · have hlen := congrArg List.length hdone
    rw [List.length_map] at hlen
    rw [haccount.number, List.nil_append, ← hlen]

/-- A plugin that checks and one that copies; there is no space for the copy. -/
def checkAndCopy : Registry Replay := [
  ⟨"site.check", { manifest := .named "check", needsConnection := false, task := pure () }⟩,
  ⟨"site.copy", { manifest := .named "copy", task := Task.failWith "no space left" }⟩]

/-- A job with an order. -/
def ordering (order : List String) : Job Replay where
  assignment := { hostname := "router", logDir := "log", order := some order }
  session := some {}
  host := { files := { root := "/" } }

/-- The order of two checks, a copy and a third check. -/
theorem named_checks_and_copy :
    (ordering ["check", "check", "copy", "check"]).assignment.order =
        some ["check", "check", "copy", "check"] ∧
      (∀ name ∈ ["check", "check", "copy", "check"], checkAndCopy.Provided
        (wanted none (ordering ["check", "check", "copy", "check"])) name) ∧
      ∃ run, InOrder checkAndCopy none (ordering ["check", "check", "copy", "check"])
        ["check", "check", "copy", "check"] run := by
  have resolves : ∀ name ∈ ["check", "check", "copy", "check"], checkAndCopy.Provided
      (wanted none (ordering ["check", "check", "copy", "check"])) name := by
    intro name hname
    refine (checkAndCopy.isSome_provider? _ name).mp ?_
    revert name
    decide
  exact ⟨rfl, resolves, named_runs_prefix_of_order _ _ _ _ rfl resolves⟩

/-! ## Orders that do not resolve -/

section Bodies

omit [Session σ]

/-- What an order misses does not depend on what the plugins do. -/
theorem missingNames_withBodies (bodies : RegistryEntry σ → Task σ Unit) (catalog : Catalog σ)
    (order : List String) :
    missingNames (catalog.withBodies bodies) order = missingNames catalog order := by
  simp only [missingNames]
  simp only [Catalog.get?_withBodies, Option.isNone_map]

/-- Neither does the plan of an order that misses something. -/
theorem orderPlan_withBodies (bodies : RegistryEntry σ → Task σ Unit) {registry : Registry σ}
    {phases : Option (List String)} {job : Job σ} {order : List String}
    (ordered : job.assignment.order = some order)
    (absent : ∃ name ∈ order, ¬ registry.Provided (wanted phases job) name) :
    orderPlan (registry.withBodies bodies) phases job = orderPlan registry phases job := by
  have hscan : orderScan (registry.withBodies bodies) phases job
      = ((orderScan registry phases job).1.withBodies bodies,
        (orderScan registry phases job).2) := Catalog.scan_withBodies registry _
  have habsent : ∃ name ∈ order,
      ¬ (registry.withBodies bodies).Provided (wanted phases job) name := by
    obtain ⟨name, hmem, hnot⟩ := absent
    exact ⟨name, hmem, fun h => hnot ((registry.provided_withBodies _ name).mp h)⟩
  rw [orderPlan_of_absent ordered absent, orderPlan_of_absent ordered habsent, hscan,
    missingNames_withBodies]

end Bodies

/-- What is left of a job that was refused because its order misses names: `complaints` are those
    of the catalog. -/
structure Refused (complaints : List Complaint) (missing : List String) (job final : Job σ) :
    Prop where
  outcome : final.outcome = some false
  executed : final.executed = job.executed
  number : final.number = job.number
  store : final.store = job.store
  /-- The session is as it was, or disconnected once if it was connected. -/
  session : final.session = job.session.map (Job.letGo job.host.files)
  statuses : final.host.board.statuses = job.host.board.statuses
  /-- The board is given the warnings and then one error. -/
  board : final.host.board =
    (complaints.map (job.warningLine ·.message) ++
      [job.errorLine ("Missing the following selected plugin(s): " ++
        ", ".intercalate missing)]).foldl Board.save job.host.board

/-- Over a recorded session: a job that is refused makes one call, the disconnect, if the session
    was connected, and else none. -/
theorem Refused.calls {complaints : List Complaint} {missing : List String}
    {job final : Job (Recorded σ)} (h : Refused complaints missing job final) :
    final.session.map (·.calls) = job.session.map fun recorded => recorded.calls ++
      if Session.isConnected recorded.session then
        [.disconnect (Session.disconnect recorded.session job.host.files).result]
      else [] := by
  rw [h.session, Option.map_map]
  cases job.session with
  | none => rfl
  | some recorded => exact congrArg some (Job.calls_letGo job.host.files recorded)

/-- Warning a job, reporting what is missing and finalizing it is a refusal. -/
theorem refused_finalize (complaints : List Complaint) (missing : List String) {job : Job σ}
    (pending : job.isFinalized = false) :
    Refused complaints missing job
      ((report (.unresolved missing) (job.warnAll complaints)).finalize false) := by
  let told := report (.unresolved missing) (job.warnAll complaints)
  have hpending : told.isFinalized = false := by
    rw [← pending]
    exact congrArg Option.isSome (Job.warnAll_outcome complaints)
  have hwarned := Job.warnAll_eq complaints job
  have hlabel : (job.warnAll complaints).errorLine = job.errorLine := by
    rw [hwarned]
    rfl
  have hboard : told.host.board =
      (complaints.map (job.warningLine ·.message) ++
        [job.errorLine ("Missing the following selected plugin(s): " ++
          ", ".intercalate missing)]).foldl Board.save job.host.board := by
    rw [List.foldl_append, ← Job.warnAll_board, ← hlabel]
    rfl
  obtain ⟨host, hfinal, hkept⟩ := Job.finalize_eq false hpending
  show Refused complaints missing job (told.finalize false)
  rw [hfinal]
  refine ⟨rfl, Job.warnAll_executed complaints, Job.warnAll_number complaints,
    Job.warnAll_store complaints, ?_, ?_, hkept.trans hboard⟩
  · have hfiles : told.host.files = job.host.files := Job.warnAll_files complaints job
    have hsession : told.session = job.session := Job.warnAll_session complaints
    rw [← hfiles, ← hsession]
  · dsimp only
    rw [hkept, hboard, Job.statuses_foldl_save]

/-- **NOTHING**: if a name of an order does not resolve, the dispatch starts no body whatever the
    bodies are, refuses the job, and names exactly what does not resolve, each name once and by
    its first place in the order. -/
theorem named_refuses_unresolved (registry : Registry σ) (phases : Option (List String))
    (job : Job σ) (order : List String) (ordered : job.assignment.order = some order)
    (pending : job.isFinalized = false)
    (absent : ∃ name ∈ order, ¬ registry.Provided (wanted phases job) name) :
    ∃ missing final,
      (∀ bodies, named (registry.withBodies bodies) phases job
        = (.error (.unresolved missing), final)) ∧
      named registry phases job = (.error (.unresolved missing), final) ∧
      (∀ name, name ∈ missing ↔
        name ∈ order ∧ ¬ registry.Provided (wanted phases job) name) ∧
      missing.Pairwise (fun a b => order.idxOf a < order.idxOf b) ∧
      Refused (orderScan registry phases job).2 missing job final := by
  let scanned := orderScan registry phases job
  let missing := missingNames scanned.1 order
  have hnamed : named registry phases job = (.error (.unresolved missing),
      (report (.unresolved missing) (job.warnAll scanned.2)).finalize false) := by
    rw [named_eq_execute, orderPlan_of_absent ordered absent]
    rfl
  refine ⟨missing, _, ?_, hnamed, mem_unresolved ordered, missingNames_sorted scanned.1 order,
    refused_finalize scanned.2 missing pending⟩
  intro bodies
  rw [← hnamed, named_eq_execute, named_eq_execute, orderPlan_withBodies bodies ordered absent]

/-- The order of a check and two installs that no plugin is there for. -/
theorem named_refuses_installs :
    (ordering ["check", "install", "install"]).assignment.order =
        some ["check", "install", "install"] ∧
      (ordering ["check", "install", "install"]).isFinalized = false ∧
      (∃ name ∈ ["check", "install", "install"], ¬ checkAndCopy.Provided
        (wanted none (ordering ["check", "install", "install"])) name) ∧
      ∃ missing final,
        named checkAndCopy none (ordering ["check", "install", "install"])
          = (.error (.unresolved missing), final) ∧
        Refused [] missing (ordering ["check", "install", "install"]) final := by
  have absent : ∃ name ∈ ["check", "install", "install"], ¬ checkAndCopy.Provided
      (wanted none (ordering ["check", "install", "install"])) name := by
    refine ⟨"install", by decide, ?_⟩
    rw [← checkAndCopy.isSome_provider? _ "install"]
    decide
  obtain ⟨missing, final, -, hnamed, -, -, hrefused⟩ :=
    named_refuses_unresolved checkAndCopy none _ _ rfl rfl absent
  exact ⟨rfl, rfl, absent, missing, final, hnamed, hrefused⟩

end Upkeep.Dispatch
