import Upkeep.Proofs.Dispatch.Conclusion

/-! # Histories — one job, dispatched over and over

    A job may be dispatched more than once, be changed in between, and be
    finalized by anybody at any time.  A `History` starts with the creation and
    has all deeds since then, those inside of plugin bodies among them.  Of a
    dispatch it has the deeds that the dispatcher does, one after the other, and
    those of the bodies in between, and last of all that the job is finalized by
    the result.

    A history is a course from a created job (`History.course`), and whatever
    holds along courses holds of it.  So the summary is written by the first deed
    that finalizes or not at all, and from there on its file is as safe as anything
    that neither the owner nor a body nor the session touches (`Lawful.kept`).  The
    one thing that holds only between dispatches is that no plugin runs. -/

namespace Upkeep.Dispatch

variable {σ : Type}

/-- A job to which nothing has happened. -/
structure Created (job : Job σ) : Prop where
  number : job.number = 1
  executed : job.executed = []
  current : job.current = none
  outcome : job.outcome = none

/-- The states that a job was in when something was done with it, and its last one. -/
def states (past : List (Event σ)) (job : Job σ) : List (Job σ) := past.map Event.before ++ [job]

variable [Session σ] {job : Job σ} {past : List (Event σ)}

/-- What has happened to a job since its creation, when no dispatch is under way. -/
inductive History : List (Event σ) → Job σ → Prop where
  | created {job : Job σ} : Created job → History [] job
  /-- Its owner changes it: what it is asked to do, its session, its host, its store. -/
  | changed {past : List (Event σ)} {job next : Job σ} :
      History past job → job.Worked next → History (past ++ [⟨job, .work, next⟩]) next
  /-- Its owner finalizes it. -/
  | finalized {past : List (Event σ)} {job : Job σ} (succeeded : Bool) :
      History past job →
      History (past ++ [⟨job, .finalize succeeded, job.finalize succeeded⟩])
        (job.finalize succeeded)
  /-- It is dispatched: there is what has to be done, and it is finalized by the result. -/
  | dispatched {past events : List (Event σ)} {job : Job σ} (dispatcher : Dispatcher)
      (registry : Registry σ) {came : Except DispatchError Unit × Job σ} :
      History past job → dispatcher.Works registry Deed.OfBody job events came →
      History (past ++ (events ++ [⟨came.2, .finalize came.1.isOk, came.2.finalize came.1.isOk⟩]))
        (dispatcher.dispatch registry job).2

/-! ## Along a course -/

namespace Course

variable {first last : Job σ} {events : List (Event σ)}

/-- A course leads to each of the states. -/
theorem to_state (h : Course first events last) :
    ∀ state ∈ states events last, ∃ before, Course first before state := by
  induction h with
  | nil job =>
      intro state hstate
      obtain rfl := List.mem_singleton.mp hstate
      exact ⟨[], .nil _⟩
  | cons hhappens _ ih =>
      intro state hstate
      rcases List.mem_cons.mp hstate with rfl | hlater
      · exact ⟨[], .nil _⟩
      · obtain ⟨before, hbefore⟩ := ih state hlater
        exact ⟨_, .cons hhappens hbefore⟩

/-- The names on the account are there in all later states. -/
theorem executed_prefix (h : Course first events last) :
    ∀ state ∈ states events last, first.executed <+: state.executed := by
  intro state hstate
  obtain ⟨before, hbefore⟩ := h.to_state state hstate
  obtain ⟨names, hnames, -⟩ := hbefore.account
  exact ⟨names, hnames.symm⟩

/-- **GROWTH**: of two states, the later one has the names of the earlier one, and perhaps more
    behind them. -/
theorem grows (h : Course first events last) :
    (states events last).Pairwise fun earlier later => earlier.executed <+: later.executed := by
  induction h with
  | nil job => exact List.pairwise_singleton _ _
  | cons hhappens hrest ih =>
      have hcourse := Course.cons hhappens hrest
      exact List.pairwise_cons.mpr ⟨fun state hstate =>
        hcourse.executed_prefix state (List.mem_cons_of_mem _ hstate), ih⟩

/-- **PLACE**: if the place is one behind the names at first, it always is. -/
theorem place (h : Course first events last)
    (placed : first.number = 1 + first.executed.length) :
    ∀ state ∈ states events last, state.number = 1 + state.executed.length := by
  intro state hstate
  obtain ⟨before, hbefore⟩ := h.to_state state hstate
  obtain ⟨names, hnames, hnumber⟩ := hbefore.account
  rw [hnumber, placed, hnames, List.length_append, Nat.add_assoc]

end Course

/-! ## Whole histories -/

/-- Finalizing by what a dispatch has come to is its last deed. -/
theorem dispatch_finalize (dispatcher : Dispatcher) {registry : Registry σ} {allowed : Deed → Prop}
    {events : List (Event σ)} {came : Except DispatchError Unit × Job σ}
    (h : dispatcher.Works registry allowed job events came) :
    (dispatcher.dispatch registry job).1.isOk = came.1.isOk ∧
      (dispatcher.dispatch registry job).2 = came.2.finalize came.1.isOk := by
  rw [dispatcher.dispatch_eq, h.working_eq]
  exact finish_eq came

/-- **COURSE**: a history is a course from a job to which nothing has happened. -/
theorem History.course (h : History past job) :
    ∃ first, Created first ∧ Course first past job := by
  induction h with
  | created hcreated => exact ⟨_, hcreated, .nil _⟩
  | changed _ hwork ih =>
      obtain ⟨first, hcreated, hcourse⟩ := ih
      exact ⟨first, hcreated, hcourse.append (.single (.worked hwork))⟩
  | finalized succeeded _ ih =>
      obtain ⟨first, hcreated, hcourse⟩ := ih
      exact ⟨first, hcreated, hcourse.append (.single (.finalized succeeded _))⟩
  | dispatched dispatcher registry _ hworks ih =>
      obtain ⟨first, hcreated, hcourse⟩ := ih
      rw [(dispatch_finalize dispatcher hworks).2]
      exact ⟨first, hcreated, hcourse.append (hworks.course.append (.single (.finalized _ _)))⟩

/-- Finalizing starts no plugin. -/
theorem finalize_idle (succeeded : Bool) (idle : job.current = none) :
    (job.finalize succeeded).current = none :=
  (Job.Reaches.finalize succeeded).current.elim (·.trans idle) id

/-- **IDLE**: between dispatches no plugin runs. -/
theorem History.idle (h : History past job) : job.current = none := by
  induction h with
  | created hcreated => exact hcreated.current
  | changed _ hwork ih => exact hwork.idle ih
  | finalized succeeded _ ih => exact finalize_idle succeeded ih
  | dispatched dispatcher registry _ hworks ih =>
      have hidle := dispatcher.working_current registry ih
      rw [hworks.working_eq] at hidle
      rw [(dispatch_finalize dispatcher hworks).2]
      exact finalize_idle _ hidle

/-- What holds of a job with a past. -/
structure Lawful (past : List (Event σ)) (job : Job σ) : Prop where
  /-- No plugin runs. -/
  idle : job.current = none
  /-- The place is that of the next plugin, and always was. -/
  place : ∀ state ∈ states past job, state.number = 1 + state.executed.length
  /-- Names have only ever been added at the end of the account. -/
  grows : (states past job).Pairwise fun earlier later => earlier.executed <+: later.executed
  /-- The outcome is that of the first deed that finalizes, from there on. -/
  outcome : job.outcome = (outcomes past).head?
  recorded : ∀ before event behind, past = before ++ event :: behind →
    event.before.outcome = (outcomes before).head?
  /-- Another such deed has left the job as it was: its session, its files and all else. -/
  once : ∀ before event behind succeeded, past = before ++ event :: behind →
    event.deed = .finalize succeeded → outcomes before ≠ [] → event.behind = event.before
  /-- The first one lets go of the session, and writes the summary at most. -/
  written : ∀ before event behind succeeded, past = before ++ event :: behind →
    event.deed = .finalize succeeded → outcomes before = [] →
    event.before.SummarizedAt event.before.freed event.behind.host.files
  /-- What the dispatcher tells and enters leaves the files and the session alone. -/
  entered : ∀ event ∈ past, event.deed = .report ∨ event.deed = .entry →
    event.behind.host.files = event.before.host.files ∧
      event.behind.session = event.before.session
  /-- Where it makes the session suit, the files are those that the session leaves. -/
  suited : ∀ event ∈ past, ∀ needed, event.deed = .suit needed →
    event.behind.host.files = event.before.suitedFiles needed
  /-- Once the job is finalized, a file that the owner, the bodies and the session leave alone is
      as it was then. -/
  kept : ∀ before event behind succeeded, past = before ++ event :: behind →
    event.deed = .finalize succeeded → ∀ names,
    (∀ later ∈ behind, later.deed.Outside →
      later.behind.host.files.file? names = later.before.host.files.file? names) →
    job.host.files.file? names = event.behind.host.files.file? names

/-- A course from a job to which nothing has happened is lawful but for the plugin that may run. -/
theorem Course.lawful {first : Job σ} (h : Course first past job) (created : Created first)
    (idle : job.current = none) : Lawful past job := by
  have houtcome {events : List (Event σ)} {last : Job σ} (hevents : Course first events last) :
      last.outcome = (outcomes events).head? := by
    rw [hevents.outcome, created.outcome]
    rfl
  refine ⟨idle, ?_, h.grows, houtcome h, ?_, ?_, ?_, ?_, ?_, ?_⟩
  · refine h.place ?_
    rw [created.number, created.executed]
    rfl
  · rintro before event behind rfl
    exact houtcome h.split.1
  · rintro before ⟨job, deed, next⟩ behind succeeded rfl rfl hrecorded
    obtain ⟨hbefore, hevent, -⟩ := h.split
    -- an outcome has been recorded on the way, so the job is over
    have hover : job.outcome ≠ none := by
      rw [houtcome hbefore]
      exact fun hnone => hrecorded (List.head?_eq_none_iff.mp hnone)
    exact hevent.eq_finalize.trans (Job.finalize_final hover succeeded)
  · rintro before ⟨job, deed, next⟩ behind succeeded rfl rfl hnone
    obtain ⟨hbefore, hevent, -⟩ := h.split
    have hpending : job.isFinalized = false := by
      rw [Job.isFinalized, houtcome hbefore, hnone]
      rfl
    have hnext : next = job.finalize succeeded := hevent.eq_finalize
    rw [hnext]
    exact Job.finalize_files succeeded hpending
  · intro event hmem hdeed
    obtain ⟨before, behind, rfl⟩ := List.append_of_mem hmem
    obtain ⟨-, hevent, -⟩ := h.split
    exact ⟨hevent.own_files hdeed, hevent.own_session hdeed⟩
  · rintro ⟨job, deed, next⟩ hmem needed rfl
    obtain ⟨before, behind, rfl⟩ := List.append_of_mem hmem
    exact h.split.2.1.suit_files
  · rintro before ⟨job, deed, next⟩ behind succeeded rfl rfl names hothers
    obtain ⟨-, hevent, hbehind⟩ := h.split
    have hover : next.outcome ≠ none := by
      rw [hevent.outcome]
      cases job.outcome with
      | none => exact Option.some_ne_none _
      | some recorded => exact Option.some_ne_none _
    exact hbehind.kept hover names hothers

/-- A plugin body is orderly if all that it does is to work and to finalize. -/
def Orderly (registry : Registry σ) : Prop :=
  ∀ entry ∈ registry, entry.plugin.task.Does Deed.OfBody

/-- **HISTORY**: whatever has been done with a job since its creation, by whomever and in whatever
    order, the job is as it should be, and a dispatch of orderly bodies adds to its past. -/
theorem history_lawful (past : List (Event σ)) (job : Job σ) (h : History past job) :
    Lawful past job ∧
      ∀ (dispatcher : Dispatcher) (registry : Registry σ), Orderly registry →
        ∃ events concluding,
          History (past ++ (events ++ [⟨concluding,
            .finalize (dispatcher.dispatch registry job).1.isOk,
            (dispatcher.dispatch registry job).2⟩])) (dispatcher.dispatch registry job).2 := by
  obtain ⟨first, hcreated, hcourse⟩ := h.course
  refine ⟨hcourse.lawful hcreated h.idle, ?_⟩
  intro dispatcher registry orderly
  obtain ⟨events, hworks⟩ := dispatcher.exists_works registry job orderly
  obtain ⟨hok, hlast⟩ := dispatch_finalize dispatcher hworks
  have hdispatched := History.dispatched dispatcher registry h hworks
  rw [← hok] at hdispatched hlast
  rw [← hlast] at hdispatched
  exact ⟨events, _, hdispatched⟩

/-- A plugin that finalizes the job itself and goes on. -/
def closing : Registry Replay := [
  ⟨"site.close", { manifest := (Manifest.named "close").forPhases ["Check"],
                   task := do
                     Task.finalize true
                     Task.warn "closed" }⟩]

/-- Its body is orderly. -/
theorem orderly_closing : Orderly closing := by
  intro entry hentry
  rw [List.mem_singleton.mp hentry]
  exact .bind (.finalize trivial) fun _ => .of_keeps (fun _ => rfl) trivial

/-- A job with the phase `Check`, and with a directory for its summary. -/
def checking : Job Replay where
  assignment := { hostname := "router", logDir := "log", phase := some "Check",
                  runDir := some "run" }
  session := some {}
  host := { files := emptyRun }

/-- The job when its owner has called it a failure, has had it dispatched all the same, and has
    called it a success when that has succeeded. -/
def checkedOnce : Job Replay :=
  (Dispatcher.own.dispatch closing (checking.finalize false)).2.finalize true

/-- The owner, the body, the dispatcher and again the owner have finalized the job.  It has failed,
    since that was said first, and the summary still says so: it does not know of the plugin that
    has completed since. -/
theorem checked_lawful :
    ∃ past, History past checkedOnce ∧ Lawful past checkedOnce ∧
      (outcomes past).getLast? = some true ∧ checkedOnce.outcome = some false ∧
      checkedOnce.executed = ["close"] ∧
      ∃ summary, checkedOnce.host.files.readText (joinPath "run" "job.json")
          = .ok (Json.render summary) ∧
        Json.parse? (Json.render summary) = some summary ∧
        summary.field? "success" = some (.bool false) ∧
        summary.field? "executed" = some (.texts []) := by
  have hcreated : History [] checking := .created ⟨rfl, rfl, rfl, rfl⟩
  have hclosed := hcreated.finalized false
  obtain ⟨events, concluding, hdispatched⟩ :=
    (history_lawful _ _ hclosed).2 .own closing orderly_closing
  have hfinalized := hdispatched.finalized true
  -- what has been written is read while the job is as its owner has left it first
  have hpending : checking.isFinalized = false := rfl
  have hfreed : checking.freed = emptyRun := rfl
  obtain ⟨summary, hread, hparse, hsuccess, hexecuted⟩ :=
    Job.read_finalize false hpending "run" (["run", "job.json"], [], false) rfl
      (by rw [hfreed, emptyRun_opens])
  obtain ⟨host, hover, -⟩ := Job.finalize_eq false hpending
  rw [hover] at hread hexecuted
  have hlast : checkedOnce.host.files = host.files ∧ checkedOnce.outcome = some false ∧
      checkedOnce.executed = ["close"] := by
    rw [checkedOnce, hover]
    exact ⟨rfl, rfl, rfl⟩
  obtain ⟨hfiles, houtcome, haccount⟩ := hlast
  rw [← hfiles] at hread
  refine ⟨_, hfinalized, (history_lawful _ _ hfinalized).1, ?_, houtcome, haccount, summary, hread,
    hparse, hsuccess, hexecuted⟩
  rw [outcomes, List.filterMap_append]
  exact List.getLast?_concat

end Upkeep.Dispatch
