import Upkeep.Proofs.Dispatch.Plan
import Upkeep.Proofs.Dispatch.Suiting
import Upkeep.Proofs.Host.Directories

/-! # Courses — what happens to a job, deed by deed

    A job has several writers.  The dispatcher enters what it starts and how it
    went, reports what is wrong, and makes the session suit a plugin.  Who has the
    job in hand meanwhile, its owner or a plugin body, works with it.  And anybody
    may finalize it.  A `Course` is a row of such deeds, each with the job before
    and behind it.

    Only work is free.  What the dispatcher does by itself is told by what it
    computes, and none of that writes a file: entries and reports go to board and
    journal (`Happens.own_files`), and where the session is made to suit, the files
    are those that the session leaves (`Happens.suit_files`).

    A body is a function, and all that it shows is the job it leaves.  `Does` says
    that what a task comes to can be taken apart into deeds of a kind.  It holds
    of tasks that leave the outcome alone, of finalizing, and of whatever is put
    together from them.  The deeds around the bodies are those that the dispatcher
    has to do, in their order (`Running`, `Works`), and they lead to what the
    dispatch comes to (`Works.working_eq`).

    What a deed does to account and outcome is said once (`Happens.account`,
    `Happens.outcome`), and an induction takes it along a course: names are only
    added at the end, the place moves on by their number, and the outcome is that
    of the first deed that finalizes. -/

namespace Upkeep

variable {σ : Type}

/-! ## Work -/

/-- What may become of a job in the hands of somebody who neither keeps the account nor finalizes
    it. -/
structure Job.Worked (job next : Job σ) : Prop where
  number : next.number = job.number
  executed : next.executed = job.executed
  current : next.current = job.current ∨ next.current = none
  outcome : next.outcome = job.outcome

namespace Job.Worked

variable {job mid next : Job σ}

/-- A plugin that leaves the outcome alone does no more than work. -/
theorem of_reaches (h : job.Reaches next) (outcome : next.outcome = job.outcome) :
    job.Worked next := ⟨h.number, h.executed, h.current, outcome⟩

/-- Work starts no plugin. -/
theorem idle (h : job.Worked next) (idle : job.current = none) : next.current = none :=
  h.current.elim (·.trans idle) id

end Job.Worked

/-! ## Deeds -/

/-- Something that is done with a job. -/
inductive Deed where
  /-- Its owner works with it, or a plugin body does. -/
  | work
  /-- The dispatcher tells what is left out, or what is wrong. -/
  | report
  /-- The dispatcher enters what it starts, or how that went. -/
  | entry
  /-- The dispatcher makes the session suit a plugin. -/
  | suit (needed : Bool)
  | finalize (succeeded : Bool)

/-- The outcome that a deed is to record. -/
def Deed.outcome? : Deed → Option Bool
  | .finalize succeeded => some succeeded
  | _ => none

/-- What plugin bodies may do: they work, and they finalize. -/
def Deed.OfBody : Deed → Prop
  | .work => True
  | .finalize _ => True
  | _ => False

/-- What the dispatcher does around plugin bodies. -/
def Deed.OfDispatcher : Deed → Prop
  | .report => True
  | .entry => True
  | .suit _ => True
  | _ => False

/-- The dispatcher records no outcome up to the conclusion. -/
theorem Deed.OfDispatcher.outcome?_eq {deed : Deed} (h : deed.OfDispatcher) :
    deed.outcome? = none := by
  cases deed with
  | finalize => exact h.elim
  | _ => rfl

/-- What others have a hand in: the owner and the bodies in their work, and the session when it is
    called. -/
def Deed.Outside : Deed → Prop
  | .work => True
  | .suit _ => True
  | _ => False

/-- Finalizing a job that is over does nothing. -/
theorem Job.finalize_final [Session σ] {job : Job σ} (hover : job.outcome ≠ none)
    (succeeded : Bool) : job.finalize succeeded = job :=
  if_pos (Option.isSome_iff_ne_none.mpr hover)

/-- Making the session suit is no more than work. -/
theorem Dispatch.reconcile_worked [Session σ] (needed : Bool) (job : Job σ) :
    job.Worked (reconcile needed job).2.val := by
  have hkeeps : (reconcile (σ := σ) needed).Keeps Job.outcome :=
    reconcile_keeps (fun _ _ _ => rfl) needed
  exact .of_reaches (reconcile needed job).2.property (hkeeps job)

namespace Dispatch

variable [Session σ] {job mid next last : Job σ} {deed : Deed}

/-- A deed leads from one state of a job to the next. -/
inductive Happens : Job σ → Deed → Job σ → Prop where
  | worked {job next : Job σ} : job.Worked next → Happens job .work next
  | reported {job next : Job σ} : Reported job next → Happens job .report next
  | announced (name : String) (job : Job σ) : Happens job .entry (announce name job)
  | completed (name : String) (job : Job σ) : Happens job .entry (complete name job)
  | abandoned (error : PluginError) (job : Job σ) : Happens job .entry (abandon error job)
  | suited (needed : Bool) (job : Job σ) :
      Happens job (.suit needed) (reconcile needed job).2.val
  | finalized (succeeded : Bool) (job : Job σ) :
      Happens job (.finalize succeeded) (job.finalize succeeded)

namespace Happens

/-- **OUTCOME**: the outcome after a deed is the one before it, or else that of the deed. -/
theorem outcome (h : Happens job deed next) :
    next.outcome = job.outcome.or deed.outcome? := by
  cases h with
  | worked hwork => exact hwork.outcome.trans Option.or_none.symm
  | reported htold =>
      obtain ⟨host, rfl, -⟩ := htold
      exact Option.or_none.symm
  | announced => exact Option.or_none.symm
  | completed => exact Option.or_none.symm
  | abandoned error =>
      obtain ⟨host, habandon⟩ := abandon_job error job
      rw [habandon]
      exact Option.or_none.symm
  | suited needed => exact (reconcile_worked needed job).outcome.trans Option.or_none.symm
  | finalized succeeded =>
      cases hout : job.outcome with
      | some recorded =>
          -- the job is over, and its outcome stays
          rw [Job.finalize_final (by rw [hout]; exact Option.some_ne_none _), hout]
          rfl
      | none =>
          have hpending : job.isFinalized = false := by rw [Job.isFinalized, hout]; rfl
          obtain ⟨host, hfinal, -⟩ := Job.finalize_eq succeeded hpending
          rw [hfinal]
          rfl

/-- To finalize leads to one state. -/
theorem eq_finalize {succeeded : Bool} (h : Happens job (.finalize succeeded) next) :
    next = job.finalize succeeded := by
  cases h with
  | finalized => rfl

/-- **ACCOUNT**: a deed adds names at the end or none, and moves the place on by their number. -/
theorem account (h : Happens job deed next) :
    ∃ names, next.executed = job.executed ++ names ∧
      next.number = job.number + names.length := by
  cases h with
  | worked hwork =>
      exact ⟨[], by rw [hwork.executed, List.append_nil], hwork.number⟩
  | reported htold =>
      obtain ⟨host, rfl, -⟩ := htold
      exact ⟨[], (List.append_nil _).symm, rfl⟩
  | announced => exact ⟨[], (List.append_nil _).symm, rfl⟩
  | completed name => exact ⟨[name], rfl, rfl⟩
  | abandoned error =>
      have haccount := accounted_abandon error job
      exact ⟨[], haccount.executed, haccount.number⟩
  | suited needed =>
      have hwork := reconcile_worked needed job
      exact ⟨[], by rw [hwork.executed, List.append_nil], hwork.number⟩
  | finalized succeeded =>
      have hreach : job.Reaches (job.finalize succeeded) := .finalize succeeded
      exact ⟨[], by rw [hreach.executed, List.append_nil], hreach.number⟩

/-- Reports and entries are made on the board and in the journal, and write no file. -/
theorem own_files (h : Happens job deed next) (own : deed = .report ∨ deed = .entry) :
    next.host.files = job.host.files := by
  cases h with
  | reported htold =>
      obtain ⟨host, rfl, hfiles⟩ := htold
      exact hfiles
  | announced => rfl
  | completed => rfl
  | abandoned error =>
      cases error with
      | fatal => rfl
      | _ => rfl
  | worked => simp at own
  | suited => simp at own
  | finalized => simp at own

/-- They leave the session alone. -/
theorem own_session (h : Happens job deed next) (own : deed = .report ∨ deed = .entry) :
    next.session = job.session := by
  cases h with
  | reported htold =>
      obtain ⟨host, rfl, -⟩ := htold
      rfl
  | announced => rfl
  | completed => rfl
  | abandoned error =>
      obtain ⟨host, habandon⟩ := abandon_job error job
      rw [habandon]
  | worked => simp at own
  | suited => simp at own
  | finalized => simp at own

/-- Where the session is made to suit, the files are those that it leaves. -/
theorem suit_files {needed : Bool} (h : Happens job (.suit needed) next) :
    next.host.files = job.suitedFiles needed := by
  cases h with
  | suited =>
      obtain ⟨host, hcomes, hfiles⟩ := reconcile_comes needed job
      have hnext : (reconcile needed job).2.val = { job with session := _, host } :=
        congrArg Prod.snd hcomes
      rw [hnext]
      exact hfiles

/-- A job that is over is over behind every deed. -/
theorem outcome_ne_none (h : Happens job deed next) (hover : job.outcome ≠ none) :
    next.outcome ≠ none := by
  obtain ⟨recorded, hout⟩ := Option.ne_none_iff_exists'.mp hover
  rw [h.outcome, hout]
  exact Option.some_ne_none _

/-- **KEPT**: of a job that is over, a deed changes no file by itself. -/
theorem kept (h : Happens job deed next) (hover : job.outcome ≠ none) (names : List String)
    (outside : deed.Outside → next.host.files.file? names = job.host.files.file? names) :
    next.host.files.file? names = job.host.files.file? names := by
  cases deed with
  | work => exact outside trivial
  | report => rw [h.own_files (Or.inl rfl)]
  | entry => rw [h.own_files (Or.inr rfl)]
  | suit needed => exact outside trivial
  | finalize succeeded => rw [h.eq_finalize, Job.finalize_final hover]

end Happens

/-! ## Courses -/

/-- A deed, with the job before and behind it. -/
structure Event (σ : Type) where
  before : Job σ
  deed : Deed
  behind : Job σ

/-- Deeds one after the other. -/
inductive Course : Job σ → List (Event σ) → Job σ → Prop where
  | nil (job : Job σ) : Course job [] job
  | cons {job mid last : Job σ} {deed : Deed} {rest : List (Event σ)} :
      Happens job deed mid → Course mid rest last → Course job (⟨job, deed, mid⟩ :: rest) last

/-- The outcomes that were to be recorded, in the order of the deeds. -/
def outcomes (events : List (Event σ)) : List Bool := events.filterMap (·.deed.outcome?)

namespace Course

variable {events more : List (Event σ)}

/-- A single deed. -/
protected theorem single (h : Happens job deed next) : Course job [⟨job, deed, next⟩] next :=
  .cons h (.nil next)

/-- Two courses in a row. -/
protected theorem append (h : Course job events mid) (hmore : Course mid more last) :
    Course job (events ++ more) last := by
  induction h with
  | nil => exact hmore
  | cons hhappens _ ih => exact .cons hhappens (ih hmore)

/-- A course leads to each of its deeds, and on from there. -/
theorem split {event : Event σ} {before behind : List (Event σ)}
    (h : Course job (before ++ event :: behind) last) :
    Course job before event.before ∧ Happens event.before event.deed event.behind ∧
      Course event.behind behind last := by
  induction before generalizing job with
  | nil =>
      cases h with
      | cons hhappens hrest => exact ⟨.nil _, hhappens, hrest⟩
  | cons first rest ih =>
      cases h with
      | cons hhappens hrest =>
          obtain ⟨hbefore, hevent, hbehind⟩ := ih hrest
          exact ⟨.cons hhappens hbefore, hevent, hbehind⟩

/-- **OUTCOME**: the outcome after a course is the one before it, or else the first that was to be
    recorded. -/
theorem outcome (h : Course job events last) :
    last.outcome = job.outcome.or (outcomes events).head? := by
  induction h with
  | nil => exact Option.or_none.symm
  | @cons job mid last deed rest hhappens _ ih =>
      have hcons : (outcomes (⟨job, deed, mid⟩ :: rest)).head?
          = deed.outcome?.or (outcomes rest).head? := by
        simp only [outcomes, List.filterMap_cons]
        cases deed.outcome? with
        | none => rfl
        | some succeeded => rfl
      rw [ih, hhappens.outcome, hcons, Option.or_assoc]

/-- **ACCOUNT**: a course adds names at the end, and moves the place on by their number. -/
theorem account (h : Course job events last) :
    ∃ names, last.executed = job.executed ++ names ∧
      last.number = job.number + names.length := by
  induction h with
  | nil => exact ⟨[], (List.append_nil _).symm, rfl⟩
  | cons hhappens _ ih =>
      obtain ⟨names, hexecuted, hnumber⟩ := hhappens.account
      obtain ⟨rest, hrest, hplace⟩ := ih
      refine ⟨names ++ rest, ?_, ?_⟩
      · rw [hrest, hexecuted, List.append_assoc]
      · rw [hplace, hnumber, List.length_append, Nat.add_assoc]

/-- **KEPT**: once a job is over, a file that nobody else touches stays as it is. -/
theorem kept (h : Course job events last) (hover : job.outcome ≠ none) (names : List String)
    (outside : ∀ event ∈ events, event.deed.Outside →
      event.behind.host.files.file? names = event.before.host.files.file? names) :
    last.host.files.file? names = job.host.files.file? names := by
  induction h with
  | nil => rfl
  | cons hhappens _ ih =>
      obtain ⟨hfirst, hrest⟩ := List.forall_mem_cons.mp outside
      exact (ih (hhappens.outcome_ne_none hover) hrest).trans (hhappens.kept hover names hfirst)

end Course

/-- Deeds of a kind lead from one state of a job to another. -/
def Leads (allowed : Deed → Prop) (job next : Job σ) : Prop :=
  ∃ events, Course job events next ∧ ∀ event ∈ events, allowed event.deed

namespace Leads

variable {allowed : Deed → Prop}

protected theorem refl (job : Job σ) : Leads allowed job job :=
  ⟨[], .nil job, fun _ hevent => nomatch hevent⟩

protected theorem single (h : Happens job deed next) (hdeed : allowed deed) :
    Leads allowed job next := by
  refine ⟨_, .single h, ?_⟩
  intro event hevent
  rw [List.mem_singleton.mp hevent]
  exact hdeed

protected theorem trans (h : Leads allowed job mid) (h' : Leads allowed mid next) :
    Leads allowed job next := by
  obtain ⟨events, hcourse, hevents⟩ := h
  obtain ⟨more, hcourse', hmore⟩ := h'
  exact ⟨events ++ more, hcourse.append hcourse', List.forall_mem_append.mpr ⟨hevents, hmore⟩⟩

end Leads

end Dispatch

/-! ## What tasks do -/

namespace Task

open Dispatch (Leads)

variable [Session σ] {α β : Type} {allowed : Deed → Prop}

/-- What a task comes to on a job is deeds of a kind. -/
def Does (allowed : Deed → Prop) (task : Task σ α) : Prop :=
  ∀ job, Leads allowed job (task job).2.val

namespace Does

/-- A task that leaves the outcome alone is work. -/
theorem of_keeps {task : Task σ α} (h : task.Keeps Job.outcome) (work : allowed .work) :
    task.Does allowed :=
  fun job => .single (.worked (.of_reaches (task job).2.property (h job))) work

/-- Finalizing the job is a deed. -/
protected theorem finalize {succeeded : Bool} (h : allowed (.finalize succeeded)) :
    (Task.finalize (σ := σ) succeeded).Does allowed :=
  fun job => .single (.finalized succeeded job) h

/-- Two tasks in a row do what either does. -/
protected theorem bind {task : Task σ α} {next : α → Task σ β} (h : task.Does allowed)
    (hnext : ∀ a, (next a).Does allowed) : (task >>= next).Does allowed := by
  intro job
  have hmid := h job
  show Leads allowed job (Task.bind task next job).2.val
  rw [Task.bind]
  rcases ht : task job with ⟨_ | a, ⟨mid, hreach⟩⟩
  all_goals rw [ht] at hmid
  · exact hmid
  · exact hmid.trans (hnext a mid)

end Does

end Task

/-! ## What dispatches do -/

namespace Dispatch

variable [Session σ] {allowed : Deed → Prop}

/-- What is done with a job before the body of an entry: the plugin is announced, and the session
    is made to suit it. -/
def approach (entry : CatalogEntry σ) (job : Job σ) : List (Event σ) :=
  [⟨job, .entry, announce entry.descriptor.name job⟩,
    ⟨announce entry.descriptor.name job, .suit entry.plugin.needsConnection,
      (prepare entry job).2⟩]

theorem course_approach (entry : CatalogEntry σ) (job : Job σ) :
    Course job (approach entry job) (prepare entry job).2 :=
  .cons (.announced _ _) (.single (.suited _ _))

/-- The deeds of running some entries, if their bodies do deeds of a kind: what is done before a
    body, what the body does, and the entry of how that went, up to the first failure. -/
inductive Running (allowed : Deed → Prop) : List (CatalogEntry σ) → Job σ → List (Event σ) →
    Except DispatchError Unit → Job σ → Prop where
  | finished (job : Job σ) : Running allowed [] job [] (.ok ()) job
  | unready {entry : CatalogEntry σ} {rest : List (CatalogEntry σ)} {job ready : Job σ}
      {error : PluginError} :
      prepare entry job = (.error error, ready) →
      Running allowed (entry :: rest) job
        (approach entry job ++ [⟨ready, .entry, abandon error ready⟩])
        (.error (.plugin entry.descriptor.name error)) (abandon error ready)
  | failed {entry : CatalogEntry σ} {rest : List (CatalogEntry σ)} {job ready : Job σ}
      {error : PluginError} {body : List (Event σ)} :
      prepare entry job = (.ok (), ready) → (Start.mk entry ready).result = .error error →
      Course ready body (Start.mk entry ready).left → (∀ event ∈ body, allowed event.deed) →
      Running allowed (entry :: rest) job
        (approach entry job ++ (body ++ [⟨(Start.mk entry ready).left, .entry,
          abandon error (Start.mk entry ready).left⟩]))
        (.error (.plugin entry.descriptor.name error)) (abandon error (Start.mk entry ready).left)
  | completed {entry : CatalogEntry σ} {rest : List (CatalogEntry σ)} {job ready last : Job σ}
      {body more : List (Event σ)} {result : Except DispatchError Unit} :
      prepare entry job = (.ok (), ready) → (Start.mk entry ready).result = .ok () →
      Course ready body (Start.mk entry ready).left → (∀ event ∈ body, allowed event.deed) →
      Running allowed rest (complete entry.descriptor.name (Start.mk entry ready).left) more
        result last →
      Running allowed (entry :: rest) job
        (approach entry job ++ (body ++ ⟨(Start.mk entry ready).left, .entry,
          complete entry.descriptor.name (Start.mk entry ready).left⟩ :: more)) result last

namespace Running

variable {entries : List (CatalogEntry σ)} {job last : Job σ} {events : List (Event σ)}
  {result : Except DispatchError Unit}

/-- **RUNNING**: the deeds lead to what running the entries comes to. -/
theorem runEntries_eq (h : Running allowed entries job events result last) :
    runEntries entries job = (result, last) := by
  induction h with
  | finished => rfl
  | unready hready => rw [runEntries_cons, invoke_unready hready]
  | failed hready hfail => rw [runEntries_cons, invoke_ready hready, hfail]
  | completed hready hok _ _ _ ih =>
      rw [runEntries_cons, invoke_ready hready, hok]
      exact ih

/-- They are a course. -/
theorem course (h : Running allowed entries job events result last) :
    Course job events last := by
  have happroach {entry : CatalogEntry σ} {job ready : Job σ} {result : Except PluginError Unit}
      (hready : prepare entry job = (result, ready)) : Course job (approach entry job) ready := by
    have hcourse := course_approach entry job
    rwa [hready] at hcourse
  induction h with
  | finished job => exact .nil job
  | unready hready => exact (happroach hready).append (.single (.abandoned _ _))
  | failed hready _ hbody =>
      exact (happroach hready).append (hbody.append (.single (.abandoned _ _)))
  | completed hready _ hbody _ _ ih =>
      exact (happroach hready).append (hbody.append (.cons (.completed _ _) ih))

/-- Beside those of the bodies, there are only deeds of the dispatcher. -/
theorem deeds (h : Running allowed entries job events result last) :
    ∀ event ∈ events, allowed event.deed ∨ event.deed.OfDispatcher := by
  have happroach (entry : CatalogEntry σ) (job : Job σ) :
      ∀ event ∈ approach entry job, allowed event.deed ∨ event.deed.OfDispatcher := by
    refine List.forall_mem_cons.mpr ⟨Or.inr trivial, List.forall_mem_cons.mpr ⟨Or.inr trivial, ?_⟩⟩
    exact List.forall_mem_nil _
  have hentry (job next : Job σ) {more : List (Event σ)}
      (hmore : ∀ event ∈ more, allowed event.deed ∨ event.deed.OfDispatcher) :
      ∀ event ∈ (⟨job, .entry, next⟩ :: more : List (Event σ)),
        allowed event.deed ∨ event.deed.OfDispatcher :=
    List.forall_mem_cons.mpr ⟨Or.inr trivial, hmore⟩
  induction h with
  | finished => exact List.forall_mem_nil _
  | unready =>
      exact List.forall_mem_append.mpr ⟨happroach _ _, hentry _ _ (List.forall_mem_nil _)⟩
  | failed _ _ _ hbody =>
      refine List.forall_mem_append.mpr ⟨happroach _ _, List.forall_mem_append.mpr ⟨?_, ?_⟩⟩
      · exact fun event hevent => Or.inl (hbody event hevent)
      · exact hentry _ _ (List.forall_mem_nil _)
  | completed _ _ _ hbody _ ih =>
      refine List.forall_mem_append.mpr ⟨happroach _ _, List.forall_mem_append.mpr ⟨?_, ?_⟩⟩
      · exact fun event hevent => Or.inl (hbody event hevent)
      · exact hentry _ _ ih

end Running

/-- Entries whose bodies do deeds of a kind can be run deed by deed. -/
theorem exists_running (entries : List (CatalogEntry σ)) (job : Job σ)
    (bodies : ∀ entry ∈ entries, entry.plugin.task.Does allowed) :
    ∃ events result last, Running allowed entries job events result last := by
  induction entries generalizing job with
  | nil => exact ⟨_, _, _, .finished job⟩
  | cons entry rest ih =>
      rcases hready : prepare entry job with ⟨error | _, ready⟩
      · exact ⟨_, _, _, .unready hready⟩
      · obtain ⟨body, hbody, hallowed⟩ := bodies entry List.mem_cons_self ready
        cases hresult : (Start.mk entry ready).result with
        | error error => exact ⟨_, _, _, .failed hready hresult hbody hallowed⟩
        | ok =>
            obtain ⟨more, result, last, hrest⟩ :=
              ih (complete entry.descriptor.name (Start.mk entry ready).left)
                fun other hother => bodies other (List.mem_cons_of_mem _ hother)
            exact ⟨_, _, _, .completed hready hresult hbody hallowed hrest⟩

/-- No plugin runs behind a list of entries if none runs before it. -/
theorem runEntries_current (list : List (CatalogEntry σ)) {job : Job σ}
    (idle : job.current = none) : (runEntries list job).2.current = none := by
  induction list generalizing job with
  | nil => exact idle
  | cons entry rest ih =>
      rw [runEntries_cons]
      rcases hprepare : prepare entry job with ⟨error | _, ready⟩
      · rw [invoke_unready hprepare]
        rfl
      · rw [invoke_ready hprepare]
        cases (Start.mk entry ready).result with
        | ok => exact ih rfl
        | error error => rfl

/-! ## Dispatchers -/

/-- A way to run a job: by its order, by its phase, or by its order if it has one. -/
inductive Dispatcher where
  | order (phases : Option (List String))
  | phase
  | own

namespace Dispatcher

/-- The whole of a dispatch. -/
def dispatch (registry : Registry σ) : Dispatcher → DispatchM σ (List String)
  | .order phases => named registry phases
  | .phase => byPhase registry
  | .own => runJob registry

/-- A dispatch up to its conclusion. -/
def working (registry : Registry σ) : Dispatcher → DispatchM σ Unit
  | .order phases => runOrder registry phases
  | .phase => runPhase registry
  | .own => fun job =>
    if job.assignment.order.isSome then runOrder registry none job else runPhase registry job

omit [Session σ] in
/-- What a dispatch has decided before it starts a body. -/
def plan (registry : Registry σ) (job : Job σ) : Dispatcher → Plan σ
  | .order phases => orderPlan registry phases job
  | .phase => phasePlan registry job
  | .own =>
    if job.assignment.order.isSome then orderPlan registry none job else phasePlan registry job

/-- Every dispatch works first and finalizes then. -/
theorem dispatch_eq (dispatcher : Dispatcher) (registry : Registry σ) (job : Job σ) :
    dispatcher.dispatch registry job = finish (dispatcher.working registry job) := by
  cases dispatcher with
  | order phases => exact conclude_apply _ job
  | phase => exact conclude_apply _ job
  | own =>
      simp only [dispatch, working, runJob, Action.bind_apply, Action.get_apply]
      by_cases hordered : job.assignment.order.isSome = true
      · rw [if_pos hordered, if_pos hordered]
        exact conclude_apply _ job
      · rw [if_neg hordered, if_neg hordered]
        exact conclude_apply _ job

/-- What works is the run of a plan. -/
theorem working_eq (dispatcher : Dispatcher) (registry : Registry σ) (job : Job σ) :
    dispatcher.working registry job
      = settle (dispatcher.plan registry job).flaw
          (runEntries (dispatcher.plan registry job).entries
            (dispatcher.plan registry job).job) := by
  cases dispatcher with
  | order phases => exact runOrder_apply registry phases job
  | phase => exact runPhase_apply registry job
  | own =>
      simp only [working, plan]
      by_cases hordered : job.assignment.order.isSome = true
      · rw [if_pos hordered, if_pos hordered]
        exact runOrder_apply registry none job
      · rw [if_neg hordered, if_neg hordered]
        exact runPhase_apply registry job

/-! ## Plans are made of the registry -/

omit [Session σ] in
/-- What a catalog holds is from the registry. -/
theorem registered_of_mem {registry : Registry σ} {criteria : Criteria} {entry : CatalogEntry σ}
    (h : entry ∈ (Catalog.scan registry criteria).1.entries) : entry.registered ∈ registry :=
  (Catalog.scan_sublist registry criteria).subset (List.mem_map_of_mem h)

omit [Session σ] in
/-- So is what a plan of an order runs. -/
theorem orderPlan_registered {registry : Registry σ} {phases : Option (List String)} {job : Job σ}
    {entry : CatalogEntry σ} (h : entry ∈ (orderPlan registry phases job).entries) :
    entry.registered ∈ registry := by
  rw [orderPlan] at h
  split at h
  · obtain ⟨name, -, hget⟩ := List.mem_filterMap.mp h
    exact registered_of_mem (Catalog.mem_of_get? hget)
  · exact absurd h List.not_mem_nil

omit [Session σ] in
/-- And what a plan of a phase runs. -/
theorem phasePlan_registered {registry : Registry σ} {job : Job σ} {entry : CatalogEntry σ}
    (h : entry ∈ (phasePlan registry job).entries) : entry.registered ∈ registry := by
  have hdeclaring (phase : String)
      (hmem : entry ∈ (phaseScan registry job).1.declaring phase) : entry.registered ∈ registry :=
    registered_of_mem (List.mem_filter.mp hmem).1
  rw [phasePlan] at h
  split at h
  · exact absurd h List.not_mem_nil
  · next phase _ =>
    rcases List.mem_append.mp h with hpreparing | hmem
    · rw [preparing] at hpreparing
      split at hpreparing
      · exact absurd hpreparing List.not_mem_nil
      · exact hdeclaring _ hpreparing
    · exact hdeclaring phase hmem

omit [Session σ] in
/-- Every plan is one of an order or of a phase. -/
theorem plan_cases (dispatcher : Dispatcher) (registry : Registry σ) (job : Job σ) :
    (∃ phases, dispatcher.plan registry job = orderPlan registry phases job) ∨
      dispatcher.plan registry job = phasePlan registry job := by
  cases dispatcher with
  | order phases => exact Or.inl ⟨phases, rfl⟩
  | phase => exact Or.inr rfl
  | own =>
      rw [plan]
      split
      · exact Or.inl ⟨none, rfl⟩
      · exact Or.inr rfl

omit [Session σ] in
theorem plan_registered (dispatcher : Dispatcher) {registry : Registry σ} {job : Job σ}
    {entry : CatalogEntry σ} (h : entry ∈ (dispatcher.plan registry job).entries) :
    entry.registered ∈ registry := by
  rcases dispatcher.plan_cases registry job with ⟨phases, hplan⟩ | hplan
  all_goals rw [hplan] at h
  · exact orderPlan_registered h
  · exact phasePlan_registered h

/-! ## Courses of dispatches -/

omit [Session σ] in
/-- A plan is made on a job that is told something. -/
theorem plan_reported (dispatcher : Dispatcher) (registry : Registry σ) (job : Job σ) :
    Reported job (dispatcher.plan registry job).job := by
  rcases dispatcher.plan_cases registry job with ⟨phases, hplan⟩ | hplan
  all_goals rw [hplan]
  · exact orderPlan_reported registry phases job
  · exact phasePlan_reported registry job

/-- The deeds of a dispatch up to its conclusion, and what it comes to by them: the job is told
    what is left out, the entries of the plan are run, and a flaw is told. -/
inductive Works (dispatcher : Dispatcher) (registry : Registry σ) (allowed : Deed → Prop)
    (job : Job σ) : List (Event σ) → Except DispatchError Unit × Job σ → Prop where
  | intro {events : List (Event σ)} {result : Except DispatchError Unit} {ran : Job σ} :
      Running allowed (dispatcher.plan registry job).entries (dispatcher.plan registry job).job
        events result ran →
      Works dispatcher registry allowed job
        (⟨job, .report, (dispatcher.plan registry job).job⟩ :: (events ++
          [⟨ran, .report, (settle (dispatcher.plan registry job).flaw (result, ran)).2⟩]))
        (settle (dispatcher.plan registry job).flaw (result, ran))

namespace Works

variable {dispatcher : Dispatcher} {registry : Registry σ} {job : Job σ}
  {events : List (Event σ)} {came : Except DispatchError Unit × Job σ}

/-- **WORKING**: the deeds lead to what the dispatch comes to. -/
theorem working_eq (h : dispatcher.Works registry allowed job events came) :
    dispatcher.working registry job = came := by
  obtain ⟨hrunning⟩ := h
  rw [Dispatcher.working_eq, hrunning.runEntries_eq]

/-- They are a course. -/
theorem course (h : dispatcher.Works registry allowed job events came) :
    Course job events came.2 := by
  obtain ⟨hrunning⟩ := h
  exact .cons (.reported (dispatcher.plan_reported registry job))
    (hrunning.course.append (.single (.reported (settle_reported _ _))))

/-- Beside those of the bodies, there are only deeds of the dispatcher. -/
theorem deeds (h : dispatcher.Works registry allowed job events came) :
    ∀ event ∈ events, allowed event.deed ∨ event.deed.OfDispatcher := by
  obtain ⟨hrunning⟩ := h
  refine List.forall_mem_cons.mpr ⟨Or.inr trivial, List.forall_mem_append.mpr
    ⟨hrunning.deeds, List.forall_mem_cons.mpr ⟨Or.inr trivial, List.forall_mem_nil _⟩⟩⟩

end Works

variable (registry : Registry σ)

/-- A dispatch of bodies that do deeds of a kind can be done deed by deed. -/
theorem exists_works (dispatcher : Dispatcher) (job : Job σ)
    (bodies : ∀ entry ∈ registry, entry.plugin.task.Does allowed) :
    ∃ events, dispatcher.Works registry allowed job events
      (dispatcher.working registry job) := by
  have hbodies : ∀ entry ∈ (dispatcher.plan registry job).entries,
      entry.plugin.task.Does allowed :=
    fun entry hentry => bodies _ (dispatcher.plan_registered hentry)
  obtain ⟨events, result, ran, hrunning⟩ :=
    exists_running _ (dispatcher.plan registry job).job hbodies
  have hworks : dispatcher.Works registry allowed job _ _ := .intro hrunning
  rw [hworks.working_eq]
  exact ⟨_, hworks⟩

omit [Session σ] in
/-- No plugin is started by telling a job something. -/
theorem reported_idle {job next : Job σ} (h : Reported job next) (idle : job.current = none) :
    next.current = none := by
  obtain ⟨host, rfl, -⟩ := h
  exact idle

/-- No plugin runs when a dispatch is about to be concluded, if none ran before it. -/
theorem working_current (dispatcher : Dispatcher) {job : Job σ} (idle : job.current = none) :
    (dispatcher.working registry job).2.current = none := by
  rw [working_eq]
  exact reported_idle (settle_reported _ _)
    (runEntries_current _ (reported_idle (dispatcher.plan_reported registry job) idle))

end Dispatcher

/-- Finalizing by the result of a run. -/
theorem finish_eq (ran : Except DispatchError Unit × Job σ) :
    (finish ran).1.isOk = ran.1.isOk ∧ (finish ran).2 = ran.2.finalize ran.1.isOk := by
  rcases ran with ⟨_ | _, job⟩
  · exact ⟨rfl, rfl⟩
  · exact ⟨rfl, rfl⟩

end Dispatch

end Upkeep
