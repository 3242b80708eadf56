import Upkeep.Proofs.Dispatch.Course
import Upkeep.Proofs.Plugin.Candid
import Upkeep.Session.Replay

/-! # Reports — a dispatch tells its failure once

    A failure is reported by the plugin if it is fatal, and by the dispatcher if
    it is not.  Bodies that are candid keep to their side of this, and then the
    board is given one error line for a dispatch that fails and none for one that
    succeeds (`dispatch_reports_once`).  The line of a plugin's failure begins
    with the plugin's name; what is wrong with the dispatch itself has no name
    before it.

    `Reports` goes from one invocation to a row of them, and over what a plan
    finds wrong, to the whole dispatch.  Finalizing tells the board nothing. -/

namespace Upkeep

/-- What an operator is told of a failure. That of a plugin is told under the plugin's name. -/
def DispatchError.told : DispatchError → String
  | .unresolved missing =>
    "Missing the following selected plugin(s): " ++ ", ".intercalate missing
  | .noMatch phase => "No plugins found for phase " ++ phase
  | .missingPhase => "No phase given for the job"
  | .plugin name error => "[" ++ name ++ "] " ++ error.message

/-- Whether it is the failure of a plugin. -/
def DispatchError.ofPlugin : DispatchError → Bool
  | .plugin _ _ => true
  | _ => false

/-- The error line for it. -/
def DispatchError.line (error : DispatchError) : String := "ERROR: " ++ error.told

variable {σ : Type}

/-! ## Jobs with another board -/

namespace Job

/-- What a board is told of some complaints. -/
def warnings (complaints : List Complaint) (job : Job σ) : List Notice :=
  complaints.map fun complaint => .line (job.warningLine complaint.message)

/-- There is no error among them. -/
theorem errors_warnings (complaints : List Complaint) (job : Job σ) :
    errors (job.warnings complaints) = [] := by
  induction complaints with
  | nil => rfl
  | cons complaint rest ih =>
      show errors ([.line (job.warningLine complaint.message)] ++ job.warnings rest) = []
      rw [errors_append, ih, List.append_nil]
      exact errors_warning _

/-- Warnings are given to any board. -/
theorem onBoard_warnAll (complaints : List Complaint) (job : Job σ) (board : Board) :
    (job.onBoard board).warnAll complaints
      = (job.warnAll complaints).onBoard (board.takeAll (job.warnings complaints)) := by
  induction complaints generalizing job board with
  | nil => rfl
  | cons complaint rest ih =>
      exact ih (job.warn complaint.message)
        (board.take (.line (job.warningLine complaint.message)))

theorem onBoard_writeSummary (succeeded : Bool) (job : Job σ) (board : Board) :
    (job.onBoard board).writeSummary succeeded = (job.writeSummary succeeded).onBoard board := by
  have hdirectory : (job.onBoard board).assignment.runDir = job.assignment.runDir := rfl
  have hsummary : (job.onBoard board).summary succeeded = job.summary succeeded := rfl
  have hfiles : (job.onBoard board).host.files = job.host.files := rfl
  simp only [writeSummary, hdirectory, hsummary, hfiles]
  split
  · rfl
  · split
    · rfl
    · rfl

variable [Session σ]

theorem onBoard_release (job : Job σ) (board : Board) :
    (job.onBoard board).release = job.release.onBoard board := by
  have hsession : (job.onBoard board).session = job.session := rfl
  have hfiles : (job.onBoard board).host.files = job.host.files := rfl
  simp only [release, hsession, hfiles]
  split
  · rfl
  · split
    · split
      · rfl
      · rfl
    · rfl

/-- **FINALIZING** a job tells the board nothing. -/
theorem onBoard_finalize (succeeded : Bool) (job : Job σ) (board : Board) :
    (job.onBoard board).finalize succeeded = (job.finalize succeeded).onBoard board := by
  have hfinalized : (job.onBoard board).isFinalized = job.isFinalized := rfl
  rw [finalize, finalize, hfinalized]
  split
  · rfl
  · show ((job.ended succeeded).onBoard board).release.writeSummary succeeded = _
    rw [onBoard_release, onBoard_writeSummary]
    rfl

end Job

namespace Dispatch

variable {α : Type}

/-- The error lines of a result: one for a failure, and else none. -/
def errorLines : Except DispatchError α → List String
  | .ok _ => []
  | .error error => [error.line]

/-- A part of a dispatch gives every board the same notices, and the error lines among them are
    those of its result. -/
def Reports (part : DispatchM σ α) (job : Job σ) : Prop :=
  ∃ notices,
    (∀ board, part (job.onBoard board)
      = ((part job).1, (part job).2.onBoard (board.takeAll notices))) ∧
    errors notices = errorLines (part job).1

variable [Session σ]

/-- Making the session suit a plugin fails mildly. -/
theorem reconcile_candid (needed : Bool) : (reconcile (σ := σ) needed).Candid := by
  have hover (action : LinkM SessionError σ Unit) (h : Discreet action) :
      (Task.overSession PluginError.session action).Candid :=
    .overSession (fun _ => rfl) h
  rw [reconcile]
  refine .job (fun _ _ => rfl) fun job => ?_
  split
  · split
    · exact .fail rfl
    · exact .pure ()
  · split
    · exact .bind (.log _ _) fun _ => hover _ (.call _)
    · split
      · exact .bind (.log _ _) fun _ => hover _ (.call _)
      · exact .pure ()

/-- An invocation comes to what becomes of the session and then of the body. -/
theorem invoke_comes (entry : CatalogEntry σ) (job : Job σ) :
    invoke entry job
      = match (reconcile entry.plugin.needsConnection >>= fun _ => entry.plugin.task).comes
          (announce entry.descriptor.name job) with
        | (.ok (), left) => (.ok (), complete entry.descriptor.name left)
        | (.error error, left) =>
          (.error (.plugin entry.descriptor.name error), abandon error left) := by
  rw [invoke, Task.comes]
  rcases (reconcile entry.plugin.needsConnection >>= fun _ => entry.plugin.task)
    (announce entry.descriptor.name job) with ⟨_ | _, ⟨left, hleft⟩⟩
  · rfl
  · rfl

omit [Session σ] in
/-- Giving up on a plugin reports its failure unless that is fatal. -/
theorem abandon_reports (error : PluginError) (job : Job σ) :
    ∃ notices,
      (∀ board, abandon error (job.onBoard board)
        = (abandon error job).onBoard (board.takeAll notices)) ∧
      job.reported (.error error : Except PluginError Unit) ++ errors notices
        = [job.errorLine error.message] := by
  cases error with
  | fatal message => exact ⟨[], fun _ => rfl, rfl⟩
  | _ => exact ⟨[.line (job.errorLine _)], fun _ => rfl, errors_error _⟩

omit [Session σ] in
/-- The line of a plugin's failure has its name in front. -/
theorem errorLine_plugin {job : Job σ} {name : String} (h : job.current = some name)
    (error : PluginError) :
    job.errorLine error.message = DispatchError.line (.plugin name error) := by
  rw [Job.errorLine, Job.label, h]
  rfl

/-- **INVOCATION**: whoever reports it, a failure is reported once, under the plugin's name. -/
theorem invoke_reports {entry : CatalogEntry σ} (h : entry.plugin.task.Candid) (job : Job σ) :
    Reports (invoke entry) job := by
  have hcandid : (reconcile entry.plugin.needsConnection >>= fun _ =>
      entry.plugin.task).Candid := .bind (reconcile_candid _) fun _ => h
  obtain ⟨notices, htold, herrors, hcurrent⟩ := hcandid (announce entry.descriptor.name job)
  have hannounce (board : Board) :
      announce entry.descriptor.name (job.onBoard board)
        = (announce entry.descriptor.name job).onBoard
            (board.take (.status entry.descriptor.name)) := rfl
  -- the name of the plugin is announced before all else
  have hboth (board : Board) :
      (reconcile entry.plugin.needsConnection >>= fun _ => entry.plugin.task).comes
          (announce entry.descriptor.name (job.onBoard board)) = _ :=
    (congrArg _ (hannounce board)).trans (htold _)
  rcases hcomes : (reconcile entry.plugin.needsConnection >>= fun _ => entry.plugin.task).comes
    (announce entry.descriptor.name job) with ⟨error | _, left⟩
  all_goals rw [hcomes] at herrors hcurrent hboth
  · obtain ⟨more, habandon, hmore⟩ := abandon_reports error left
    refine ⟨.status entry.descriptor.name :: (notices ++ more), fun board => ?_, ?_⟩
    · rw [invoke_comes, invoke_comes, hboth, hcomes]
      dsimp only
      rw [habandon, ← Board.takeAll_append]
      rfl
    · have hreported := Job.reported_congr hcurrent (.error error : Except PluginError Unit)
      rw [← hreported] at herrors
      show errors (notices ++ more) = _
      rw [invoke_comes, hcomes, errors_append, herrors, hmore, errorLine_plugin hcurrent]
      rfl
  · refine ⟨.status entry.descriptor.name :: notices, fun board => ?_, ?_⟩
    · rw [invoke_comes, invoke_comes, hboth, hcomes]
      rfl
    · rw [invoke_comes, hcomes]
      exact herrors

/-- So it is for a row of them: the first failure is the last thing reported. -/
theorem runEntries_reports {entries : List (CatalogEntry σ)}
    (h : ∀ entry ∈ entries, entry.plugin.task.Candid) (job : Job σ) :
    Reports (runEntries entries) job := by
  induction entries generalizing job with
  | nil => exact ⟨[], fun _ => rfl, rfl⟩
  | cons entry rest ih =>
      obtain ⟨notices, htold, herrors⟩ := invoke_reports (h entry List.mem_cons_self) job
      rcases hinvoke : invoke entry job with ⟨error | _, mid⟩
      all_goals rw [hinvoke] at htold herrors
      · refine ⟨notices, fun board => ?_, ?_⟩
        · rw [runEntries_cons, runEntries_cons, hinvoke, htold]
        · rw [runEntries_cons, hinvoke]
          exact herrors
      · obtain ⟨more, htold', herrors'⟩ :=
          ih (fun other hother => h other (List.mem_cons_of_mem _ hother)) mid
        refine ⟨notices ++ more, fun board => ?_, ?_⟩
        · rw [runEntries_cons, runEntries_cons, hinvoke, htold, Board.takeAll_append]
          exact htold' _
        · rw [runEntries_cons, hinvoke, errors_append, herrors]
          exact herrors'

/-! ## Plans -/

omit [Session σ] in
/-- A flaw of a plan is reported once, without a name before it if no plugin runs. -/
theorem report_reports {flaw : DispatchError} (h : flaw.ofPlugin = false)
    {job : Job σ} (idle : job.current = none) :
    ∃ notices,
      (∀ board, report flaw (job.onBoard board)
        = (report flaw job).onBoard (board.takeAll notices)) ∧
      errors notices = [flaw.line] := by
  have hlabel (message : String) : job.errorLine message = "ERROR: " ++ message := by
    rw [Job.errorLine, Job.label, idle]
  have hline (message : String) : errors [.line (job.errorLine message)]
      = ["ERROR: " ++ message] := by
    rw [hlabel]
    exact errors_error message
  cases flaw with
  | unresolved missing => exact ⟨[.line (job.errorLine _)], fun _ => rfl, hline _⟩
  | noMatch phase =>
      exact ⟨[.status _, .line (job.errorLine _)], fun _ => rfl, hline _⟩
  | missingPhase => exact ⟨[.line (job.errorLine _)], fun _ => rfl, hline _⟩
  | plugin name error => cases h

/-- The plan with its job on a host with another board. -/
def Plan.onBoard (board : Board) (plan : Plan σ) : Plan σ :=
  { plan with job := plan.job.onBoard board }

omit [Session σ] in
/-- The plan of an order is the same whatever the board is, which is told what the catalog leaves
    out. -/
theorem orderPlan_onBoard (registry : Registry σ) (phases : Option (List String)) (job : Job σ)
    (board : Board) :
    orderPlan registry phases (job.onBoard board)
      = (orderPlan registry phases job).onBoard
          (board.takeAll (job.warnings (orderScan registry phases job).2)) := by
  have horder : (job.onBoard board).assignment.order = job.assignment.order := rfl
  have hscan : orderScan registry phases (job.onBoard board)
      = orderScan registry phases job := rfl
  simp only [orderPlan, horder, hscan, Job.onBoard_warnAll]
  split
  · rfl
  · rfl

omit [Session σ] in
/-- So is the plan of a phase. That there is nothing to prepare is told to the journal only. -/
theorem phasePlan_onBoard (registry : Registry σ) (job : Job σ) :
    ∃ notices, errors notices = [] ∧ ∀ board,
      phasePlan registry (job.onBoard board)
        = (phasePlan registry job).onBoard (board.takeAll notices) := by
  cases hphase : job.assignment.phase with
  | none =>
      refine ⟨[], rfl, fun board => ?_⟩
      have hsame : (job.onBoard board).assignment.phase = none := hphase
      rw [phasePlan, phasePlan, hsame, hphase]
      rfl
  | some phase =>
      refine ⟨job.warnings (phaseScan registry job).2, Job.errors_warnings _ _, fun board => ?_⟩
      have hsame : (job.onBoard board).assignment.phase = some phase := hphase
      have hscan : phaseScan registry (job.onBoard board) = phaseScan registry job := rfl
      have hskip (catalog : Catalog σ) (job : Job σ) (board : Board) :
          skipping catalog phase (job.onBoard board)
            = (skipping catalog phase job).onBoard board := by
        rw [skipping, skipping]
        split
        · rfl
        · split
          · rfl
          · rfl
      rw [phasePlan, phasePlan, hsame, hphase]
      simp only [told, hscan, Job.onBoard_warnAll, hskip]
      rfl

omit [Session σ] in
/-- A plan is made in the same way whatever the board is, and what the board is told on the way
    are warnings. -/
theorem plan_onBoard (dispatcher : Dispatcher) (registry : Registry σ) (job : Job σ) :
    ∃ notices, errors notices = [] ∧ ∀ board,
      dispatcher.plan registry (job.onBoard board)
        = (dispatcher.plan registry job).onBoard (board.takeAll notices) := by
  have horder (phases : Option (List String)) : ∃ notices, errors notices = [] ∧ ∀ board,
      orderPlan registry phases (job.onBoard board)
        = (orderPlan registry phases job).onBoard (board.takeAll notices) :=
    ⟨_, Job.errors_warnings _ _, orderPlan_onBoard registry phases job⟩
  cases dispatcher with
  | order phases => exact horder phases
  | phase => exact phasePlan_onBoard registry job
  | own =>
      have hsame (board : Board) : (job.onBoard board).assignment.order = job.assignment.order :=
        rfl
      simp only [Dispatcher.plan, hsame]
      split
      · exact horder none
      · exact phasePlan_onBoard registry job

omit [Session σ] in
/-- What is wrong with a plan is not the failure of a plugin. -/
theorem plan_flaw (dispatcher : Dispatcher) (registry : Registry σ) (job : Job σ) :
    ∀ flaw ∈ (dispatcher.plan registry job).flaw, flaw.ofPlugin = false := by
  have horder (phases : Option (List String)) :
      ∀ flaw ∈ (orderPlan registry phases job).flaw, flaw.ofPlugin = false := by
    intro flaw hflaw
    rw [orderPlan] at hflaw
    split at hflaw
    · cases hflaw
    · cases hflaw
      rfl
  have hphase : ∀ flaw ∈ (phasePlan registry job).flaw, flaw.ofPlugin = false := by
    intro flaw hflaw
    rw [phasePlan] at hflaw
    split at hflaw
    · cases hflaw
      rfl
    · dsimp only at hflaw
      rw [lack] at hflaw
      split at hflaw
      · cases hflaw
        rfl
      · cases hflaw
  rcases dispatcher.plan_cases registry job with ⟨phases, hplan⟩ | hplan
  all_goals rw [hplan]
  · exact horder phases
  · exact hphase

/-! ## Dispatches -/

/-- A run and what is found wrong behind it: one failure at most, and it is reported once. -/
theorem settle_reports {entries : List (CatalogEntry σ)} {flaw : Option DispatchError}
    (bodies : ∀ entry ∈ entries, entry.plugin.task.Candid)
    (named : ∀ found ∈ flaw, found.ofPlugin = false) {job : Job σ}
    (idle : job.current = none) :
    Reports (fun job => settle flaw (runEntries entries job)) job := by
  obtain ⟨notices, hran, herrors⟩ := runEntries_reports bodies job
  have hidle := runEntries_current entries idle
  rcases hresult : runEntries entries job with ⟨error | _, left⟩
  all_goals rw [hresult] at hran herrors hidle
  · -- the run has failed, so nothing more is reported
    refine ⟨notices, fun board => ?_, ?_⟩
    · dsimp only
      rw [hran, hresult]
      rfl
    · dsimp only
      rw [hresult]
      exact herrors
  · cases flaw with
    | none =>
        refine ⟨notices, fun board => ?_, ?_⟩
        · dsimp only
          rw [hran, hresult]
          rfl
        · dsimp only
          rw [hresult]
          exact herrors
    | some flaw =>
        obtain ⟨more, hreport, hline⟩ := report_reports (named flaw rfl) hidle
        refine ⟨notices ++ more, fun board => ?_, ?_⟩
        · dsimp only
          rw [hran, hresult, Board.takeAll_append]
          exact congrArg (Prod.mk _) (hreport _)
        · dsimp only
          rw [hresult, errors_append, herrors, hline]
          rfl

/-- Up to its conclusion, a dispatch reports its failure once. -/
theorem working_reports (dispatcher : Dispatcher) {registry : Registry σ}
    (bodies : ∀ entry ∈ registry, entry.plugin.task.Candid) {job : Job σ}
    (idle : job.current = none) : Reports (dispatcher.working registry) job := by
  obtain ⟨notices, hnone, hplan⟩ := plan_onBoard dispatcher registry job
  have hbodies : ∀ entry ∈ (dispatcher.plan registry job).entries, entry.plugin.task.Candid :=
    fun entry hentry => bodies _ (dispatcher.plan_registered hentry)
  obtain ⟨more, hsettled, hmore⟩ := settle_reports hbodies
    (plan_flaw dispatcher registry job)
    (Dispatcher.reported_idle (dispatcher.plan_reported registry job) idle)
  refine ⟨notices ++ more, fun board => ?_, ?_⟩
  · rw [dispatcher.working_eq, dispatcher.working_eq, hplan, Board.takeAll_append]
    exact hsettled _
  · rw [dispatcher.working_eq, errors_append, hnone]
    exact hmore

/-- Finalizing by the result of a run. -/
theorem finish_onBoard (ran : Except DispatchError Unit × Job σ) (board : Board) :
    finish (ran.1, ran.2.onBoard board) = ((finish ran).1, (finish ran).2.onBoard board) := by
  rcases ran with ⟨_ | _, job⟩
  · exact congrArg (Prod.mk _) (job.onBoard_finalize false board)
  · simp only [finish, job.onBoard_finalize true board]
    rfl

/-- **ONCE**: a dispatch of the plugins that come with the program comes to the same whatever the
    board of its job is, and gives every board the same notices; a board that keeps lines has all
    of theirs behind its own.  If the dispatch succeeds there is no error line among them, and if
    it fails there is one, and this is the line of the failure. -/
theorem dispatch_reports_once (dispatcher : Dispatcher) (registry : Registry σ) (job : Job σ)
    (idle : job.current = none) (supplied : ∀ entry ∈ registry, Supplied entry.plugin) :
    ∃ notices,
      errors notices = (match (dispatcher.dispatch registry job).1 with
        | .ok _ => []
        | .error error => [error.line]) ∧
      ∀ board, (dispatcher.dispatch registry (job.onBoard board)).1
          = (dispatcher.dispatch registry job).1 ∧
        (dispatcher.dispatch registry (job.onBoard board)).2.host.board
          = board.takeAll notices ∧
        (dispatcher.dispatch registry (job.onBoard board)).2.host.board.jobInfo
          = board.jobInfo ++ if board.keeps then notices.filterMap Notice.line? else [] := by
  obtain ⟨notices, htold, herrors⟩ :=
    working_reports dispatcher (fun entry hentry => (supplied entry hentry).candid) idle
  refine ⟨notices, ?_, fun board => ?_⟩
  · rw [herrors, dispatcher.dispatch_eq]
    rcases dispatcher.working registry job with ⟨error | _, left⟩
    · rfl
    · rfl
  · rw [dispatcher.dispatch_eq, dispatcher.dispatch_eq, htold, finish_onBoard]
    exact ⟨rfl, rfl, board.takeAll_jobInfo notices⟩

/-- A job that is to be checked over a session that it does not have. -/
def unconnected : Job Replay where
  assignment := { hostname := "router", logDir := "log", phase := some "Pre-Check",
                  os := some "XE", order := some ["Node Status Check"] }
  session := none
  host := { files := { root := "/" } }

/-- The check does not begin, the dispatcher reports why, and there is no other error. -/
theorem dispatch_reports_unconnected :
    unconnected.current = none ∧
      (∀ entry ∈ Registry.builtin (σ := Replay), Supplied entry.plugin) ∧
      (Dispatcher.own.dispatch .builtin unconnected).2.host.board.jobInfo.filter isErrorLine
        = ["ERROR: [Node Status Check] session is not connected"] := by
  have hresult : (Dispatcher.own.dispatch .builtin unconnected).1
      = .error (.plugin "Node Status Check" (.session .notConnected)) := rfl
  have hsupplied : ∀ entry ∈ Registry.builtin (σ := Replay), Supplied entry.plugin :=
    fun _ hentry => .builtin hentry
  obtain ⟨notices, herrors, htold⟩ :=
    dispatch_reports_once .own .builtin unconnected rfl hsupplied
  obtain ⟨-, -, hlines⟩ := htold {}
  rw [hresult] at herrors
  have hboard : (Dispatcher.own.dispatch .builtin unconnected).2.host.board.jobInfo
      = notices.filterMap Notice.line? := hlines
  refine ⟨rfl, hsupplied, ?_⟩
  rw [hboard]
  exact herrors.trans (by decide)

end Dispatch

end Upkeep
