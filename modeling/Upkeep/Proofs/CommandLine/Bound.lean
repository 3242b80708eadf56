import Upkeep.CommandLine.Basic
import Upkeep.Proofs.Job.Settings

/-! # Bounds — which plugins a command line can start

    The names on a command line go one of two ways into the settings of a run:
    for an ordered run they replace the order of the job file, and else they
    replace the names to which the job is restricted.  A restriction is for
    jobs without an order.  So the names bound what is started, unless the job
    file has an order and the run is not an ordered one: then the order of the
    file is run, and the names have no say in it. -/

namespace Upkeep

namespace RunArguments

variable {arguments : RunArguments} {base : JobSettings}

/-! ## Overlays -/

/-- The names of an ordered run are its order. -/
theorem over_order_of_ordered (ordered : arguments.ordered = true) :
    (arguments.over base).order = some arguments.plugins := by
  simp only [RunArguments.over, JobSettings.order, if_pos ordered, Option.map_some, List.map_map]
  exact congrArg some (List.map_id _)

/-- Any other run keeps the order of the job file, -/
theorem over_order_of_unordered (unordered : arguments.ordered = false) :
    (arguments.over base).order = base.order := by
  simp [RunArguments.over, JobSettings.order, unordered]

/-- and is restricted to its names if it has any. -/
theorem over_plugins_of_unordered (unordered : arguments.ordered = false)
    (named : arguments.plugins ≠ []) : (arguments.over base).plugins = arguments.plugins := by
  simp [RunArguments.over, unordered, named]

open Dispatch JobSettings

variable {σ : Type} [Session σ]

/-- The bodies that a run starts are those of plugins that the command line and the job file let
    it start. -/
structure Bounded (arguments : RunArguments) (base : JobSettings) (start : Start σ) : Prop where
  /-- An ordered run, and one without an order in the job file, starts what the command line
      names. -/
  named : arguments.ordered = true ∨ base.steps = none → start.name ∈ arguments.plugins
  /-- A run that is not ordered starts what the order of the job file names, if there is one. -/
  filed : arguments.ordered = false → ∀ steps, base.steps = some steps →
    start.name ∈ steps.map (·.plugin)

/-- **BOUND**: if names are given and the settings under them pass the check, a job is made of them,
and all that is started when it is dispatched are plugins of the registry with names of the command
line, or with names of the job file's order if there is one and the run is not ordered. -/
theorem plugins_bound_starts (arguments : RunArguments) (base : JobSettings)
    (named : arguments.plugins ≠ []) (passes : (arguments.over base).check = .ok ())
    (connect : Invocation → σ) (host : Host) :
    ∃ job, (arguments.over base).job connect host = .ok job ∧
      ∀ registry, ∃ run, LeftAlone registry job run ∧
        ∀ start ∈ run.starts, arguments.Bounded base start := by
  obtain ⟨-, hurls, -⟩ := check_eq_ok_iff.mp passes
  obtain ⟨job, hjob⟩ := (job_isOk_iff connect host).mpr (checkUrls_eq_ok_iff.mp hurls)
  refine ⟨job, hjob, ?_⟩
  intro registry
  obtain ⟨run, halone⟩ := leftAlone registry job
  obtain ⟨client, -, rfl⟩ := job_eq_ok_iff.mp hjob
  refine ⟨run, halone, ?_⟩
  -- a start is at some place, and has the name of this place if there is an order
  have hordered {start : Start σ} (hstart : start ∈ run.starts) {order : List String}
      (horder : (arguments.over base).order = some order) : start.name ∈ order := by
    obtain ⟨k, hk⟩ := List.mem_iff_getElem?.mp hstart
    exact List.mem_of_getElem? (halone.order order horder k start hk)
  intro start hstart
  refine ⟨?_, ?_⟩
  · intro hcase
    cases hflag : arguments.ordered with
    | true => exact hordered hstart (over_order_of_ordered hflag)
    | false =>
        have hsteps : base.steps = none := hcase.resolve_left (by rw [hflag]; exact nofun)
        have hnone : (arguments.over base).order = none := by
          rw [over_order_of_unordered hflag, JobSettings.order, hsteps]
          rfl
        have hfilter : (arguments.over base).plugins = arguments.plugins :=
          over_plugins_of_unordered hflag named
        have hmem := halone.restricted hnone (by
          show (arguments.over base).plugins ≠ []
          rw [hfilter]
          exact named) start hstart
        rw [← hfilter]
        exact hmem
  · intro hflag steps hsteps
    refine hordered hstart ?_
    rw [over_order_of_unordered hflag, JobSettings.order, hsteps]
    rfl

/-- An audit and a report, both for a check afterwards. -/
def auditAndReport : Registry Replay := [
  ⟨"site.audit", { manifest := (Manifest.named "Audit").forPhases ["Post-Check"],
                   needsConnection := false, task := pure () }⟩,
  ⟨"site.report", { manifest := (Manifest.named "Report").forPhases ["Post-Check"],
                    needsConnection := false, task := pure () }⟩]

/-- A command line that names the report. -/
def reporting : RunArguments := { plugins := ["Report"] }

/-- Of the plugins for the phase of the job file, only the report is started. -/
theorem report_is_started :
    reporting.plugins ≠ [] ∧ (reporting.over { phase := some "Post-Check" }).check = .ok () ∧
      ∃ job : Job Replay,
        (reporting.over { phase := some "Post-Check" }).job (fun _ => {})
          { files := { root := "/" } } = .ok job ∧
        ∃ run, LeftAlone auditAndReport job run ∧ run.starts.map Start.name = ["Report"] ∧
          ∀ start ∈ run.starts, reporting.Bounded { phase := some "Post-Check" } start := by
  have hnamed : reporting.plugins ≠ [] := by decide
  have hpass : (reporting.over { phase := some "Post-Check" }).check = .ok () := by decide
  obtain ⟨job, hjob, hbound⟩ := plugins_bound_starts reporting { phase := some "Post-Check" }
    hnamed hpass (fun _ => ({} : Replay)) { files := { root := "/" } }
  obtain ⟨run, halone, hstarts⟩ := hbound auditAndReport
  refine ⟨hnamed, hpass, job, hjob, run, halone, ?_, hstarts⟩
  obtain rfl := Except.ok.inj hjob
  rw [run.unique (Dispatch.run _ _)]
  rfl

/-- The order of the job file is run, and the name on the command line is passed over. -/
theorem file_order_is_run :
    ∃ job : Job Replay,
      (reporting.over { steps := some [{ plugin := "Audit" }] }).check = .ok () ∧
      (reporting.over { steps := some [{ plugin := "Audit" }] }).job (fun _ => {})
        { files := { root := "/" } } = .ok job ∧
      ∃ run, LeftAlone auditAndReport job run ∧ run.starts.map Start.name = ["Audit"] ∧
        "Audit" ∉ reporting.plugins := by
  refine ⟨_, by decide, rfl, ?_⟩
  obtain ⟨run, halone⟩ := leftAlone auditAndReport
    { assignment := (reporting.over { steps := some [{ plugin := "Audit" }] }).assignment
      session := (none : Option Replay)
      host := { files := { root := "/" } }
      data := [.null] }
  refine ⟨run, halone, ?_, by decide⟩
  rw [run.unique (Dispatch.run _ _)]
  rfl

end RunArguments

end Upkeep
