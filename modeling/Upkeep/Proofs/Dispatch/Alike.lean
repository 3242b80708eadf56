import Mathlib.Data.List.Forall2
import Upkeep.Proofs.Dispatch.Plan
import Upkeep.Proofs.Job.Alike

/-! # Alike runs — the same entries on alike jobs

    A run of some entries on a job and a run of the same entries on an alike job
    are alike, body by body, if the bodies look neither at the order nor at the
    restriction to some names.  The relation goes through one entry first, then
    through the bodies that complete, and then to the end of the run; and since
    an entry list has only one run on a job, it holds of any two of them. -/

namespace Upkeep.Dispatch

variable {σ : Type}

/-! ## One entry -/

/-- Two bodies that have been started are alike: they are of one entry, on alike jobs. -/
structure Start.Alike (first second : Past) (start other : Start σ) : Prop where
  entry : other.entry = start.entry
  job : Job.Alike first second start.job other.job

variable {first second : Past} {job other : Job σ}

theorem announce_alike (h : Job.Alike first second job other) (name : String) :
    Job.Alike first second (announce name job) (announce name other) := by
  refine h.map (f := announce name) ?_
  intro past order nameFilter job
  show { (((Job.behind past order nameFilter { job with current := none }).log .info
    ("Dispatching: '" ++ name ++ "#" ++ toString job.number ++ "'")).postStatus name) with
      current := some name } = _
  rw [Job.behind_log, Job.behind_postStatus]
  rfl

theorem complete_alike (h : Job.Alike first second job other) (name : String) :
    Job.Alike first second (complete name job) (complete name other) :=
  h.map (f := complete name) fun _ _ _ _ => rfl

theorem abandon_alike (h : Job.Alike first second job other) (error : PluginError) :
    Job.Alike first second (abandon error job) (abandon error other) := by
  refine h.map (f := abandon error) ?_
  intro past order nameFilter job
  simp only [abandon]
  split
  · rfl
  · rw [Job.behind_logError]
    rfl

variable [Session σ]

/-- Making the session suit a plugin has nothing to do with the order. -/
theorem reconcile_blind (needed : Bool) : (reconcile (σ := σ) needed).Blind := by
  rw [reconcile]
  refine .job (fun _ _ _ _ => rfl) fun job => ?_
  cases job.session with
  | none =>
      dsimp only
      split
      · exact .fail _
      · exact .pure _
  | some session =>
      dsimp only
      split
      · exact .bind (.log _ _) fun _ => .overSession _ (.call _)
      · split
        · exact .bind (.log _ _) fun _ => .overSession _ (.call _)
        · exact .pure _

/-- The session of alike jobs is made to suit an entry on both, or fails to on both. -/
theorem prepared_alike {entry : CatalogEntry σ} {ready : Job σ} {result : Except PluginError Unit}
    (h : Job.Alike first second job other) (hready : prepare entry job = (result, ready)) :
    ∃ ready', prepare entry other = (result, ready') ∧ Job.Alike first second ready ready' := by
  have hprepare : (prepare entry other).1 = (prepare entry job).1 ∧
      Job.Alike first second (prepare entry job).2 (prepare entry other).2 :=
    reconcile_blind entry.plugin.needsConnection first second _ _
      (announce_alike h entry.descriptor.name)
  obtain ⟨hresult, halike⟩ := hprepare
  rw [hready] at hresult halike
  exact ⟨(prepare entry other).2, Prod.ext hresult rfl, halike⟩

/-- A blind body that is started on one of two alike jobs is started on the other, comes to the
    same there, and leaves an alike job. -/
theorem started_alike {entry : CatalogEntry σ} {ready : Job σ}
    (h : Job.Alike first second job other) (hready : prepare entry job = (.ok (), ready))
    (blind : entry.plugin.task.Blind) :
    ∃ ready', prepare entry other = (.ok (), ready') ∧
      (Start.mk entry ready).Alike first second ⟨entry, ready'⟩ ∧
      (Start.mk entry ready').result = (Start.mk entry ready).result ∧
      Job.Alike first second (Start.mk entry ready).left (Start.mk entry ready').left := by
  obtain ⟨ready', hready', hjob⟩ := prepared_alike h hready
  exact ⟨ready', hready', ⟨rfl, hjob⟩, blind first second ready ready' hjob⟩

/-! ## Whole runs -/

/-- Bodies that complete on a job have alike bodies that complete on an alike job. -/
theorem Completes.alike {mid : Job σ} {done : List (Start σ)} (h : Completes job done mid)
    (alike : Job.Alike first second job other)
    (blind : ∀ start ∈ done, start.entry.plugin.task.Blind) :
    ∃ done' mid', Completes other done' mid' ∧
      List.Forall₂ (Start.Alike first second) done done' ∧ Job.Alike first second mid mid' := by
  induction h generalizing other with
  | nil job => exact ⟨[], other, .nil other, .nil, alike⟩
  | cons hready hok _ ih =>
      obtain ⟨ready', hready', hstart, hresult, hleft⟩ :=
        started_alike alike hready (blind _ List.mem_cons_self)
      -- the next body finds the job as this one leaves it
      obtain ⟨done', mid', hdone, hstarts, hmid⟩ := ih (complete_alike hleft _)
        fun start hmem => blind start (List.mem_cons_of_mem _ hmem)
      exact ⟨_ :: done', mid', .cons hready' (hresult.trans hok) hdone, .cons hstart hstarts, hmid⟩

/-- A run is over on an alike job in the same way. -/
theorem Stops.alike {rest : List (CatalogEntry σ)} {last : Option (Start σ)}
    {result : Except DispatchError Unit} {final : Job σ} (h : Stops rest job last result final)
    (alike : Job.Alike first second job other)
    (blind : ∀ entry ∈ rest, entry.plugin.task.Blind) :
    ∃ last' final', Stops rest other last' result final' ∧
      List.Forall₂ (Start.Alike first second) last.toList last'.toList ∧
      Job.Alike first second final final' := by
  cases h with
  | finished => exact ⟨none, other, .finished other, .nil, alike⟩
  | unready hready =>
      obtain ⟨ready', hready', hjob⟩ := prepared_alike alike hready
      exact ⟨none, _, .unready hready', .nil, abandon_alike hjob _⟩
  | failed hready hfail =>
      obtain ⟨ready', hready', hstart, hresult, hleft⟩ :=
        started_alike alike hready (blind _ List.mem_cons_self)
      exact ⟨some ⟨_, ready'⟩, _, .failed hready' (hresult.trans hfail),
        .cons hstart .nil, abandon_alike hleft _⟩

/-- **ALIKE RUNS**: on alike jobs, entries with blind bodies have alike runs. -/
theorem Run.alike {entries : List (CatalogEntry σ)} (run : Run entries job)
    (run' : Run entries other) (alike : Job.Alike first second job other)
    (blind : ∀ entry ∈ entries, entry.plugin.task.Blind) :
    List.Forall₂ (Start.Alike first second) run.starts run'.starts ∧
      run'.result = run.result ∧ Job.Alike first second run.final run'.final := by
  obtain ⟨done, rest, mid, last, result, final, split, completes, stops⟩ := run
  subst split
  obtain ⟨done', mid', hdone, hstarts, hmid⟩ := completes.alike alike fun start hmem =>
    blind start.entry (List.mem_append_left _ (List.mem_map_of_mem hmem))
  obtain ⟨last', final', hstops, hlast, hfinal⟩ := stops.alike hmid fun entry hmem =>
    blind entry (List.mem_append_right _ hmem)
  have hsame : done'.map Start.entry = done.map Start.entry := by
    clear hdone completes blind run'
    induction hstarts with
    | nil => rfl
    | cons hstart _ ih => rw [List.map_cons, List.map_cons, hstart.entry, ih]
  -- the bodies that were found make a run, and there is no other
  obtain rfl := run'.unique ⟨done', rest, mid', last', result, final', by rw [hsame], hdone, hstops⟩
  exact ⟨List.rel_append hstarts hlast, rfl, hfinal⟩

/-- Finalizing alike jobs by one result. -/
theorem finish_alike (alike : Job.Alike first second job other)
    (result : Except DispatchError Unit) :
    (finish (result, other)).1 = (finish (result, job)).1 ∧
      Job.Alike first second (finish (result, job)).2 (finish (result, other)).2 := by
  have hfinal (succeeded : Bool) :
      Job.Alike first second (job.finalize succeeded) (other.finalize succeeded) :=
    alike.map (f := Job.finalize succeeded) fun past order nameFilter job =>
      job.behind_finalize past order nameFilter succeeded
  cases result with
  | error error => exact ⟨rfl, hfinal false⟩
  | ok => exact ⟨congrArg Except.ok (hfinal true).executed, hfinal true⟩

end Upkeep.Dispatch
