import Upkeep.CommandLine.Basic
import Upkeep.Proofs.Job.Oblivious
import Upkeep.Proofs.Plugin.Activation

/-! # Dispensable data — when an activation is the same without its data

    An activation looks at its data once, for its settings, and at nothing of
    them later (`proceed_oblivious`).  So data make no difference if they are
    read as the settings that stand for no data, and for a reload the package
    does not matter either.

    Data that cannot be read are another thing.  Then the activation fails
    before it does anything, and it does not fail so without data.  A null is
    such data, and it is what a step is given that comes without data. -/

namespace Upkeep.Activation

variable {σ : Type} [Session σ]

/-! ## What is behind the settings -/

theorem converse_oblivious (dialogue : Dialogue) (command : String) :
    (Task.converse (σ := σ) dialogue command).Oblivious := by
  refine .job (fun _ _ => rfl) fun _ => .overSession ?_ _
  exact fun _ _ => nofun

theorem upgrade_oblivious (settings : Settings) : (upgrade (σ := σ) settings).Oblivious := by
  refine .job (fun _ _ => rfl) fun job => ?_
  dsimp only
  split
  · exact .failWith _
  · exact .bind (.postStatus _) fun _ => .bind (converse_oblivious _ _) fun _ => .onHost _

theorem work_oblivious (settings : Settings) : (work (σ := σ) settings).Oblivious := by
  rw [work]
  split
  · exact .bind (.log _ _) fun _ => .bind (.postStatus _) fun _ => converse_oblivious _ _
  · exact upgrade_oblivious settings

theorem awaitDevice_oblivious : (awaitDevice (σ := σ)).Oblivious := by
  refine .job (fun _ _ => rfl) fun job => ?_
  have hwait : (Task.converge (σ := σ) job.assignment.reload).Oblivious := by
    refine .overSession ?_ _
    exact fun _ _ => nofun
  refine hwait.attempt.bind_comes ?_
  intro job outcome houtcome
  -- the failure of a wait is passed on, and is not one of data
  cases outcome with
  | ok report => exact .pure ()
  | error error =>
      refine .bind (.warn _) fun _ => .fail ?_
      rintro cause rfl
      exact hwait.content job cause (Except.ok.inj houtcome)

/-- **OBLIVIOUS**: once it knows its settings, an activation does not look at the data again. -/
theorem proceed_oblivious (settings : Settings) (prompt : Pattern) :
    (proceed (σ := σ) settings prompt).Oblivious :=
  .bind (converse_oblivious _ _) fun _ => .bind (work_oblivious settings) fun _ =>
    .bind awaitDevice_oblivious fun _ => .log _ _

/-- For a reload, nothing else of the settings matters. -/
theorem proceed_reload {settings : Settings} (reloads : settings.mode = .reload)
    (prompt : Pattern) : proceed (σ := σ) settings prompt = proceed {} prompt := by
  rw [proceed, proceed, work, work, reloads]

/-! ## With and without data -/

/-- The data of the job are dispensable for an activation: without them it comes to the same, and
    leaves the same session, the same statuses and job info, and the same job in all else. -/
def Dispensable (job : Job σ) : Prop :=
  activate.comes (job.withData [])
    = ((activate.comes job).1, (activate.comes job).2.withData [])

/-- Without data an activation has the settings that stand for none. -/
theorem activate_comes_withData_nil (job : Job σ) :
    activate.comes (job.withData []) = match job.session with
      | none => (.error (.session .notConnected), job.withData [])
      | some session => (proceed {} (Session.prompt session)).comes (job.withData []) := by
  have hnone : (job.withData []).pluginData? = none := by
    rw [Job.pluginData?]
    split
    · rfl
    · rfl
  rw [activate_comes, settings?, hnone]
  rfl

/-- Without data an activation does not fail for its data. -/
theorem activate_content (job : Job σ) (error : DecodeError) :
    (activate.comes (job.withData [])).1 ≠ .error (.data error) := by
  rw [activate_comes_withData_nil]
  cases job.session with
  | none => exact nofun
  | some session => exact (proceed_oblivious {} (Session.prompt session)).content _ error

/-- **DATA**: data that do not ask for an upgrade in service are dispensable exactly if they can be
read as settings.  If they cannot, the activation fails before it does anything, as it does not
without data. -/
theorem dispensable_iff_readable {job : Job σ} {value : Data}
    (given : job.pluginData? = some value)
    (plain : ∀ settings, Settings.ofData value = .ok settings → settings.mode = .reload) :
    (Dispensable job ↔ ∃ settings, Settings.ofData value = .ok settings) ∧
      ∀ error, Settings.ofData value = .error error →
        activate.comes job = (.error (.data error), job) ∧
        (activate.comes (job.withData [])).1 ≠ .error (.data error) := by
  have hcomes := activate_comes job
  rw [settings?, given] at hcomes
  dsimp only at hcomes
  cases hread : Settings.ofData value with
  | error error =>
      rw [hread] at hcomes
      have hfails := activate_content job error
      refine ⟨iff_of_false ?_ (by rintro ⟨_, ⟨⟩⟩), ?_⟩
      · intro hsame
        rw [Dispensable, hcomes] at hsame
        exact hfails (congrArg Prod.fst hsame)
      · rintro cause ⟨⟩
        exact ⟨hcomes, hfails⟩
  | ok settings =>
      rw [hread] at hcomes
      refine ⟨iff_of_true ?_ ⟨settings, rfl⟩, by rintro _ ⟨⟩⟩
      rw [Dispensable, activate_comes_withData_nil, hcomes]
      dsimp only
      cases job.session with
      | none => rfl
      | some session =>
          dsimp only
          rw [proceed_reload (plain settings hread)]
          exact (proceed_oblivious {} (Session.prompt session)).same [] job

/-- An activation with data that say nothing, on a device that comes back. -/
theorem empty_data_dispensable :
    (rebooting.withData [.ofFields []]).pluginData? = some (.ofFields []) ∧
      Settings.ofData (.ofFields []) = .ok {} ∧
      Dispensable (rebooting.withData [.ofFields []]) := by
  have given : (rebooting.withData [.ofFields []]).pluginData? = some (.ofFields []) := rfl
  have hread : Settings.ofData (.ofFields []) = .ok {} := rfl
  refine ⟨given, hread, ?_⟩
  refine (dispensable_iff_readable given ?_).1.mpr ⟨_, hread⟩
  intro settings hsettings
  obtain rfl := Except.ok.inj (hread.symm.trans hsettings)
  rfl

/-- A null is what an ordered run binds to its steps.  It is no settings, so the activation fails
    on a device on which it succeeds without data. -/
theorem null_is_no_settings :
    (({ ordered := true, plugins := ["Install Activate"] } : RunArguments).over {}).pluginData
        = [.null] ∧
      (rebooting.withData [.null]).pluginData? = some .null ∧
      activate.comes (rebooting.withData [.null])
        = (.error (.data (.wrongType .null "struct ActivateData")),
          rebooting.withData [.null]) ∧
      (rebooting.withData []).pluginData? = none ∧
      (activate.comes (rebooting.withData [])).1 = .ok () := by
  have hok : (activate (rebooting.withData [])).1.isOk = true := by decide +kernel
  refine ⟨rfl, rfl, ?_, rfl, ?_⟩
  · rw [activate_comes, settings?]
    rfl
  · rw [Task.comes]
    cases hresult : (activate (rebooting.withData [])).1 with
    | error error =>
        rw [hresult] at hok
        cases hok
    | ok => rfl

end Upkeep.Activation
