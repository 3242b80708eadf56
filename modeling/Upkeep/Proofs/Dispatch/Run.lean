import Upkeep.Job.Dispatch
import Upkeep.Proofs.Action
import Upkeep.Proofs.Job.Account

/-! # Runs — which plugin bodies are started, and on which jobs

    `runEntries` gives a result and a job.  It does not tell which bodies were
    started on the way, and a body may do anything a task can do.  So a run is
    written down beside it: `Completes` links bodies that were started and
    succeeded, `Stops` says how a run is over, and a `Run` is the first followed
    by the second.  A body is started only where a constructor says so.

    Every list of entries has a run on every job (`run`), a run tells what
    `runEntries` does (`Run.runEntries_eq`), and there is only one
    (`Run.unique`).  From there on nobody opens `invoke` again:
    `Run.starts_prefix`, `Run.sees`, `Run.accounted` and `Run.ends` say which
    bodies are started, what they see, what a run leaves behind and why it is
    over. -/

namespace Upkeep.Dispatch

variable {σ : Type}

/-- A plugin body that has been started: the plugin's entry, and the job the body was given. -/
structure Start (σ : Type) where
  entry : CatalogEntry σ
  job : Job σ

namespace Start

/-- The name of the plugin. -/
def name (start : Start σ) : String := start.entry.descriptor.name

/-- What the body comes to. -/
def result (start : Start σ) : Except PluginError Unit := (start.entry.plugin.task start.job).1

/-- The job as the body leaves it. -/
def left (start : Start σ) : Job σ := (start.entry.plugin.task start.job).2.val

/-- A body leaves the account alone. -/
theorem reaches (start : Start σ) : start.job.Reaches start.left :=
  (start.entry.plugin.task start.job).2.property

end Start

/-- What a body sees of the account: its own name, its place in the sequence, and the data of
    the job. -/
structure Start.Sees (start : Start σ) (number : Nat) (data : List Data) : Prop where
  current : start.job.current = some start.name
  number : start.job.number = number
  data : start.job.data = data

/-- So the data of a plugin are those of its place, counted from 1; there are none for place 0
    and behind the end. -/
theorem Start.Sees.pluginData? {start : Start σ} {number : Nat} {data : List Data}
    (h : start.Sees number data) :
    start.job.pluginData? = if number = 0 then none else data[number - 1]? := by
  rw [Job.pluginData?, h.number, h.data]

/-! ## Accounts -/

/-- What a job shows of a run when some bodies have completed since it was `job`. -/
structure Accounted (job final : Job σ) (names : List String) : Prop where
  executed : final.executed = job.executed ++ names
  number : final.number = job.number + names.length
  data : final.data = job.data

namespace Accounted

variable {job mid final : Job σ} {names more : List String}

/-- A job accounts for nothing since itself. -/
protected theorem refl (job : Job σ) : Accounted job job [] := ⟨(List.append_nil _).symm, rfl, rfl⟩

/-- Accounts add up. -/
protected theorem trans (h : Accounted job mid names) (hmore : Accounted mid final more) :
    Accounted job final (names ++ more) where
  executed := by rw [hmore.executed, h.executed, List.append_assoc]
  number := by rw [hmore.number, h.number, List.length_append, Nat.add_assoc]
  data := hmore.data.trans h.data

/-- What a plugin may do leaves the account alone. -/
theorem of_reaches (h : job.Reaches final) : Accounted job final [] :=
  ⟨h.executed.trans (List.append_nil _).symm, h.number, h.data⟩

end Accounted

/-- Completing a plugin puts it on the account. -/
theorem accounted_complete (name : String) (job : Job σ) :
    Accounted job (complete name job) [name] := ⟨rfl, rfl, rfl⟩

/-- Giving up on a plugin changes the host alone, and no plugin runs then. -/
theorem abandon_job (error : PluginError) (job : Job σ) :
    ∃ host, abandon error job = { job with host, current := none } := by
  cases error with
  | fatal message => exact ⟨job.host, rfl⟩
  | _ => exact ⟨_, rfl⟩

/-- So it adds nothing to the account. -/
theorem accounted_abandon (error : PluginError) (job : Job σ) :
    Accounted job (abandon error job) [] := by
  obtain ⟨host, habandon⟩ := abandon_job error job
  rw [habandon]
  exact ⟨(List.append_nil _).symm, rfl, rfl⟩

/-! ## One invocation -/

variable [Session σ]

/-- What becomes of the session before the body of an entry is started, and the job then. -/
def prepare (entry : CatalogEntry σ) (job : Job σ) : Except PluginError Unit × Job σ :=
  match reconcile entry.plugin.needsConnection (announce entry.descriptor.name job) with
  | (result, ⟨ready, _⟩) => (result, ready)

/-- An entry whose session cannot be made to suit it fails, and its body is not started. -/
theorem invoke_unready {entry : CatalogEntry σ} {job ready : Job σ} {error : PluginError}
    (h : prepare entry job = (.error error, ready)) :
    invoke entry job = (.error (.plugin entry.descriptor.name error), abandon error ready) := by
  rw [prepare] at h
  rcases hr : reconcile entry.plugin.needsConnection (announce entry.descriptor.name job)
    with ⟨result, ⟨mid, hmid⟩⟩
  rw [hr] at h
  obtain ⟨rfl, rfl⟩ := Prod.mk.inj h
  simp only [invoke, bind, Task.bind, hr]

/-- An entry whose session suits it starts its body, and the body's result decides. -/
theorem invoke_ready {entry : CatalogEntry σ} {job ready : Job σ}
    (h : prepare entry job = (.ok (), ready)) :
    invoke entry job = match (Start.mk entry ready).result with
      | .ok () => (.ok (), complete entry.descriptor.name (Start.mk entry ready).left)
      | .error error =>
        (.error (.plugin entry.descriptor.name error),
          abandon error (Start.mk entry ready).left) := by
  rw [prepare] at h
  rcases hr : reconcile entry.plugin.needsConnection (announce entry.descriptor.name job)
    with ⟨result, ⟨mid, hmid⟩⟩
  rw [hr] at h
  obtain ⟨rfl, rfl⟩ := Prod.mk.inj h
  -- the body is any task whatever; only its two outcomes matter
  rw [invoke, Start.result, Start.left]
  generalize entry.plugin.task = body
  simp only [bind, Task.bind, hr]
  rcases body mid with ⟨_ | _, ⟨last, hlast⟩⟩
  · rfl
  · rfl

/-- Making the session suit an entry leaves the account alone. -/
theorem prepare_reaches (entry : CatalogEntry σ) (job : Job σ) :
    (announce entry.descriptor.name job).Reaches (prepare entry job).2 :=
  (reconcile entry.plugin.needsConnection (announce entry.descriptor.name job)).2.property

/-- Making the session suit a plugin keeps every view that does not look at session and host. -/
theorem reconcile_keeps {γ : Type} {view : Job σ → γ}
    (blind : ∀ job session host, view { job with session, host } = view job) (needed : Bool) :
    (reconcile needed).Keeps view := by
  rw [reconcile]
  refine Task.Keeps.bind (fun _ => rfl) ?_
  intro job
  have hover (action : LinkM SessionError σ Unit) :
      (Task.overSession PluginError.session action).Keeps view :=
    Task.Keeps.overSession (fun job session host => blind job (some session) host) _ action
  split
  · split
    · exact fun _ => rfl
    · exact fun _ => rfl
  · split
    · exact Task.Keeps.bind (Task.Keeps.log blind _ _) (fun _ => hover _)
    · split
      · exact Task.Keeps.bind (Task.Keeps.log blind _ _) (fun _ => hover _)
      · exact fun _ => rfl

/-- So it does not change which plugin runs. -/
theorem reconcile_keeps_current (needed : Bool) :
    (reconcile (σ := σ) needed).Keeps Job.current := reconcile_keeps (fun _ _ _ => rfl) needed

/-- The body of an entry finds its own name as the plugin that runs. -/
theorem prepare_current (entry : CatalogEntry σ) (job : Job σ) :
    (prepare entry job).2.current = some entry.descriptor.name :=
  reconcile_keeps_current entry.plugin.needsConnection (announce entry.descriptor.name job)

/-! ## Whole runs -/

/-- Bodies that are started one after the other from a job on and that all succeed, and the job
    when the last one has completed. -/
inductive Completes : Job σ → List (Start σ) → Job σ → Prop where
  | nil (job : Job σ) : Completes job [] job
  | cons {job ready final : Job σ} {entry : CatalogEntry σ} {starts : List (Start σ)} :
      prepare entry job = (.ok (), ready) → (Start.mk entry ready).result = .ok () →
      Completes (complete entry.descriptor.name (Start.mk entry ready).left) starts final →
      Completes job (⟨entry, ready⟩ :: starts) final

/-- How a run is over when some entries are left: there is none, or the session does not suit
    the next one, or its body is started and fails. -/
inductive Stops : List (CatalogEntry σ) → Job σ → Option (Start σ) →
    Except DispatchError Unit → Job σ → Prop where
  | finished (job : Job σ) : Stops [] job none (.ok ()) job
  | unready {job ready : Job σ} {entry : CatalogEntry σ} {rest : List (CatalogEntry σ)}
      {error : PluginError} :
      prepare entry job = (.error error, ready) →
      Stops (entry :: rest) job none (.error (.plugin entry.descriptor.name error))
        (abandon error ready)
  | failed {job ready : Job σ} {entry : CatalogEntry σ} {rest : List (CatalogEntry σ)}
      {error : PluginError} :
      prepare entry job = (.ok (), ready) → (Start.mk entry ready).result = .error error →
      Stops (entry :: rest) job (some ⟨entry, ready⟩)
        (.error (.plugin entry.descriptor.name error)) (abandon error (Start.mk entry ready).left)

/-- A run of some entries on a job: the bodies that completed, and how it is over. -/
structure Run (entries : List (CatalogEntry σ)) (job : Job σ) where
  /-- The bodies that have completed. -/
  done : List (Start σ)
  /-- The entries that have not. -/
  rest : List (CatalogEntry σ)
  /-- The job when the last of `done` has completed. -/
  mid : Job σ
  /-- The body that has failed, if it is a body that has. -/
  last : Option (Start σ)
  result : Except DispatchError Unit
  final : Job σ
  split : done.map Start.entry ++ rest = entries
  completes : Completes job done mid
  stops : Stops rest mid last result final

namespace Run

variable {entries : List (CatalogEntry σ)} {job : Job σ}

/-- The bodies that are started. -/
def starts (run : Run entries job) : List (Start σ) := run.done ++ run.last.toList

/-- A run behind a body that completes. -/
def behind {ready : Job σ} {entry : CatalogEntry σ}
    (hready : prepare entry job = (.ok (), ready)) (hok : (Start.mk entry ready).result = .ok ())
    (run : Run entries (complete entry.descriptor.name (Start.mk entry ready).left)) :
    Run (entry :: entries) job :=
  { run with
    done := ⟨entry, ready⟩ :: run.done
    split := congrArg (entry :: ·) run.split
    completes := .cons hready hok run.completes }

end Run

/-- The run of some entries on a job. -/
def run : (entries : List (CatalogEntry σ)) → (job : Job σ) → Run entries job
  | [], job => ⟨[], [], job, none, .ok (), job, rfl, .nil job, .finished job⟩
  | entry :: rest, job =>
    match hready : prepare entry job with
    | (.error error, ready) =>
      ⟨[], entry :: rest, job, none, .error (.plugin entry.descriptor.name error),
        abandon error ready, rfl, .nil job, .unready hready⟩
    | (.ok (), ready) =>
      match hok : (Start.mk entry ready).result with
      | .error error =>
        ⟨[], entry :: rest, job, some ⟨entry, ready⟩,
          .error (.plugin entry.descriptor.name error),
          abandon error (Start.mk entry ready).left, rfl, .nil job, .failed hready hok⟩
      | .ok () =>
        (run rest (complete entry.descriptor.name (Start.mk entry ready).left)).behind hready hok

/-- Running one entry and then the rest. -/
theorem runEntries_cons (entry : CatalogEntry σ) (rest : List (CatalogEntry σ)) (job : Job σ) :
    runEntries (entry :: rest) job = match invoke entry job with
      | (.ok _, mid) => runEntries rest mid
      | (.error error, mid) => (.error error, mid) := by
  rw [runEntries, Action.bind_apply]
  rcases invoke entry job with ⟨_ | _, mid⟩
  · rfl
  · rfl

namespace Run

variable {entries : List (CatalogEntry σ)} {job : Job σ}

/-- **A RUN TELLS**: what `runEntries` comes to is what the run says. -/
theorem runEntries_eq (run : Run entries job) :
    runEntries entries job = (run.result, run.final) := by
  obtain ⟨done, rest, mid, last, result, final, split, completes, stops⟩ := run
  subst split
  dsimp only
  -- on the bodies that complete; the stop is behind all of them
  induction completes with
  | nil job =>
      cases stops with
      | finished => rfl
      | unready hready =>
          rw [List.map_nil, List.nil_append, runEntries_cons, invoke_unready hready]
      | failed hready hfail =>
          rw [List.map_nil, List.nil_append, runEntries_cons, invoke_ready hready, hfail]
  | cons hready hok _ ih =>
      rw [List.map_cons, List.cons_append, runEntries_cons, invoke_ready hready, hok]
      exact ih stops

end Run

/-! ## There is only one run -/

/-- A run can be over at an entry only if the entry does not complete. -/
theorem Stops.not_complete {job ready final : Job σ} {entry : CatalogEntry σ}
    {rest : List (CatalogEntry σ)} {last : Option (Start σ)} {result : Except DispatchError Unit}
    (h : Stops (entry :: rest) job last result final)
    (hready : prepare entry job = (.ok (), ready)) (hok : (Start.mk entry ready).result = .ok ()) :
    False := by
  cases h with
  | unready hother =>
      rw [hready] at hother
      exact nomatch hother
  | failed hother hfail =>
      rw [hready] at hother
      obtain ⟨-, rfl⟩ := Prod.mk.inj hother
      rw [hok] at hfail
      exact nomatch hfail

/-- How a run is over is decided by the entries left and the job. -/
theorem Stops.unique {rest : List (CatalogEntry σ)} {job final final' : Job σ}
    {last last' : Option (Start σ)} {result result' : Except DispatchError Unit}
    (h : Stops rest job last result final) (h' : Stops rest job last' result' final') :
    last = last' ∧ result = result' ∧ final = final' := by
  cases h with
  | finished =>
      cases h'
      exact ⟨rfl, rfl, rfl⟩
  | unready hready =>
      cases h' with
      | unready hother =>
          rw [hready] at hother
          obtain ⟨herror, rfl⟩ := Prod.mk.inj hother
          obtain rfl := Except.error.inj herror
          exact ⟨rfl, rfl, rfl⟩
      | failed hother _ =>
          rw [hready] at hother
          exact nomatch hother
  | failed hready hfail =>
      cases h' with
      | unready hother =>
          rw [hready] at hother
          exact nomatch hother
      | failed hother hfail' =>
          rw [hready] at hother
          obtain ⟨-, rfl⟩ := Prod.mk.inj hother
          rw [hfail] at hfail'
          obtain rfl := Except.error.inj hfail'
          exact ⟨rfl, rfl, rfl⟩

/-- **ONE RUN**: the entries and the job decide which bodies are started, on which jobs, and how
    the run is over. -/
theorem Run.unique {entries : List (CatalogEntry σ)} {job : Job σ}
    (first second : Run entries job) : first = second := by
  obtain ⟨done, rest, mid, last, result, final, split, completes, stops⟩ := first
  obtain ⟨done', rest', mid', last', result', final', split', completes', stops'⟩ := second
  subst split
  suffices h : done = done' ∧ rest = rest' ∧ mid = mid' by
    obtain ⟨rfl, rfl, rfl⟩ := h
    obtain ⟨rfl, rfl, rfl⟩ := stops.unique stops'
    rfl
  induction completes generalizing done' with
  | nil job =>
      cases completes' with
      | nil => exact ⟨rfl, split'.symm, rfl⟩
      | cons hready hok _ =>
          -- one run would be over at an entry that completes in the other
          rw [List.map_nil, List.nil_append, List.map_cons, List.cons_append] at split'
          rw [← split'] at stops
          exact (stops.not_complete hready hok).elim
  | cons hready hok _ ih =>
      cases completes' with
      | nil =>
          rw [List.map_nil, List.nil_append] at split'
          rw [split'] at stops'
          exact (stops'.not_complete hready hok).elim
      | cons hready' hok' completes' =>
          -- the same entry on the same job, so the same body and the same job behind it
          obtain ⟨rfl, hsplit⟩ := List.cons.inj split'
          rw [hready] at hready'
          obtain ⟨-, rfl⟩ := Prod.mk.inj hready'
          obtain ⟨rfl, hrest, hmid⟩ := ih stops _ completes' hsplit
          exact ⟨rfl, hrest, hmid⟩

/-! ## What a run leaves behind -/

/-- A body that is started sees its own name and the place and the data of the job. -/
theorem sees_of_prepare {entry : CatalogEntry σ} {job ready : Job σ}
    {result : Except PluginError Unit} (h : prepare entry job = (result, ready)) :
    (Start.mk entry ready).Sees job.number job.data := by
  have hcurrent := prepare_current entry job
  have hreach := prepare_reaches entry job
  rw [h] at hcurrent hreach
  exact ⟨hcurrent, hreach.number, hreach.data⟩

/-- Up to the start of its body, an entry leaves the account alone. -/
theorem accounted_of_prepare {entry : CatalogEntry σ} {job ready : Job σ}
    {result : Except PluginError Unit} (h : prepare entry job = (result, ready)) :
    Accounted job ready [] := by
  have hreach := prepare_reaches entry job
  rw [h] at hreach
  exact ⟨hreach.executed.trans (List.append_nil _).symm, hreach.number, hreach.data⟩

/-- A body that completes adds its name to the account. -/
theorem accounted_start {entry : CatalogEntry σ} {job ready : Job σ}
    (hready : prepare entry job = (.ok (), ready)) :
    Accounted job (complete entry.descriptor.name (Start.mk entry ready).left)
      [entry.descriptor.name] :=
  (accounted_of_prepare hready).trans
    ((Accounted.of_reaches (Start.mk entry ready).reaches).trans (accounted_complete _ _))

/-- The bodies that complete are on the account, in their order. -/
theorem Completes.accounted {job mid : Job σ} {done : List (Start σ)}
    (h : Completes job done mid) : Accounted job mid (done.map Start.name) := by
  induction h with
  | nil job => exact .refl job
  | cons hready _ _ ih => exact (accounted_start hready).trans ih

/-- The bodies that complete see consecutive places. -/
theorem Completes.sees {job mid : Job σ} {done : List (Start σ)} (h : Completes job done mid) :
    ∀ (k : Nat) (start : Start σ), done[k]? = some start →
      start.Sees (job.number + k) job.data := by
  induction h with
  | nil job => exact fun k start hk => nomatch hk
  | cons hready _ _ ih =>
      intro k start hk
      cases k with
      | zero =>
          obtain rfl := Option.some.inj hk
          exact sees_of_prepare hready
      | succ k =>
          have hsees := ih k start hk
          rw [(accounted_start hready).number, (accounted_start hready).data] at hsees
          rw [List.length_singleton, Nat.add_assoc, Nat.add_comm 1 k] at hsees
          exact hsees

/-- The bodies that complete succeed. -/
theorem Completes.succeed {job mid : Job σ} {done : List (Start σ)} (h : Completes job done mid) :
    ∀ start ∈ done, start.result = .ok () := by
  induction h with
  | nil job => exact fun start hstart => nomatch hstart
  | cons _ hok _ ih =>
      intro start hstart
      rcases List.mem_cons.mp hstart with rfl | hmem
      · exact hok
      · exact ih start hmem

section Stops

variable {rest : List (CatalogEntry σ)} {mid final : Job σ} {last : Option (Start σ)}
  {result : Except DispatchError Unit}

/-- However a run is over, it adds nothing to the account. -/
theorem Stops.accounted (h : Stops rest mid last result final) : Accounted mid final [] := by
  cases h with
  | finished => exact .refl mid
  | unready hready => exact (accounted_of_prepare hready).trans (accounted_abandon _ _)
  | failed hready hfail =>
      exact (accounted_of_prepare hready).trans
        ((Accounted.of_reaches (Start.mk _ _).reaches).trans (accounted_abandon _ _))

/-- A body that fails is that of the next entry. -/
theorem Stops.last_prefix (h : Stops rest mid last result final) :
    last.toList.map Start.entry <+: rest := by
  cases h with
  | finished => exact List.prefix_refl _
  | unready => exact List.nil_prefix
  | failed => exact ⟨_, rfl⟩

/-- A body that fails sees the next place. -/
theorem Stops.last_sees (h : Stops rest mid last result final) :
    ∀ start ∈ last, start.Sees mid.number mid.data := by
  cases h with
  | finished => exact fun start hstart => nomatch hstart
  | unready => exact fun start hstart => nomatch hstart
  | failed hready =>
      intro start hstart
      obtain rfl := Option.some.inj hstart
      exact sees_of_prepare hready

end Stops

namespace Run

variable {entries : List (CatalogEntry σ)} {job : Job σ}

/-- **ACCOUNT**: a run leaves the names of the bodies that have completed, and their number. -/
theorem accounted (run : Run entries job) :
    Accounted job run.final (run.done.map Start.name) := by
  have h := run.completes.accounted.trans run.stops.accounted
  rwa [List.append_nil] at h

/-- **PREFIX**: the bodies that are started are those of a prefix of the entries, in order. -/
theorem starts_prefix (run : Run entries job) : run.starts.map Start.entry <+: entries := by
  obtain ⟨more, hmore⟩ := run.stops.last_prefix
  refine ⟨more, ?_⟩
  rw [starts, List.map_append, List.append_assoc, hmore]
  exact run.split

/-- So their names are those of a prefix. -/
theorem starts_names (run : Run entries job) :
    run.starts.map Start.name <+: entries.map (·.descriptor.name) := by
  have h := run.starts_prefix.map (·.descriptor.name)
  rwa [List.map_map] at h

/-- The names of the bodies that have completed are the first ones. -/
theorem done_names (run : Run entries job) :
    run.done.map Start.name = (entries.map (·.descriptor.name)).take run.done.length := by
  have hentries : run.done.map Start.entry = entries.take run.done.length := by
    have hsplit := congrArg (List.take run.done.length) run.split
    rwa [List.take_left' (List.length_map _)] at hsplit
  rw [← List.map_take, ← hentries, List.map_map]
  rfl

/-- If all entries have completed, these are all of the names. -/
theorem all_names (run : Run entries job) (hall : run.done.map Start.entry = entries) :
    run.done.map Start.name = entries.map (·.descriptor.name) := by
  have h := congrArg (List.map (·.descriptor.name)) hall
  rwa [List.map_map] at h

/-- The `k`-th body that is started is that of the `k`-th entry. -/
theorem getElem?_starts (run : Run entries job) (k : Nat) (start : Start σ)
    (hk : run.starts[k]? = some start) : entries[k]? = some start.entry := by
  obtain ⟨more, hmore⟩ := run.starts_prefix
  have hentry : (run.starts.map Start.entry)[k]? = some start.entry := by
    rw [List.getElem?_map, hk]
    rfl
  obtain ⟨hlt, -⟩ := List.getElem?_eq_some_iff.mp hentry
  rw [← hmore, List.getElem?_append_left hlt]
  exact hentry

/-- **VIEW**: the bodies that are started see consecutive places. -/
theorem sees (run : Run entries job) (k : Nat) (start : Start σ)
    (hk : run.starts[k]? = some start) : start.Sees (job.number + k) job.data := by
  rw [starts] at hk
  by_cases hdone : k < run.done.length
  · rw [List.getElem?_append_left hdone] at hk
    exact run.completes.sees k start hk
  · -- behind the bodies that have completed there is one place at most
    rw [List.getElem?_append_right (Nat.le_of_not_lt hdone)] at hk
    obtain ⟨hlt, -⟩ := List.getElem?_eq_some_iff.mp hk
    have hmem : start ∈ run.last := by
      simpa using List.mem_of_getElem? hk
    have hlen : run.last.toList.length ≤ 1 := by
      cases run.last with
      | none => exact Nat.zero_le 1
      | some start => exact Nat.le_refl 1
    have hplace : run.mid.number = job.number + k := by
      rw [run.completes.accounted.number, List.length_map]
      omega
    have hsees := run.stops.last_sees start hmem
    rw [hplace, run.completes.accounted.data] at hsees
    exact hsees

/-- Why a run is over at an entry: the session cannot be made to suit it and its body is not
    started, or its body is the last that is started and fails. -/
inductive FailsAt (run : Run entries job) (entry : CatalogEntry σ) (error : PluginError) :
    Prop where
  | unready : (prepare entry run.mid).1 = .error error → run.starts = run.done →
      FailsAt run entry error
  | failed (start : Start σ) : start.entry = entry → start.result = .error error →
      run.starts = run.done ++ [start] → FailsAt run entry error

/-- **END**: all entries have completed, or the run is over at the first that has not, and that
    is the plugin of the error. -/
theorem ends (run : Run entries job) :
    (run.result = .ok () ∧ run.starts = run.done ∧ run.done.map Start.entry = entries) ∨
    ∃ entry error, entries[run.done.length]? = some entry ∧
      run.result = .error (.plugin entry.descriptor.name error) ∧ run.FailsAt entry error := by
  obtain ⟨done, rest, mid, last, result, final, split, completes, stops⟩ := run
  have hnext (entry : CatalogEntry σ) (more : List (CatalogEntry σ)) :
      (done.map Start.entry ++ entry :: more)[done.length]? = some entry := by
    rw [List.getElem?_append_right (Nat.le_of_eq (List.length_map _)), List.length_map,
      Nat.sub_self]
    rfl
  subst split
  cases stops with
  | finished =>
      exact Or.inl ⟨rfl, List.append_nil _, (List.append_nil _).symm⟩
  | unready hready =>
      refine Or.inr ⟨_, _, hnext _ _, rfl, .unready ?_ (List.append_nil _)⟩
      rw [hready]
  | failed hready hfail =>
      exact Or.inr ⟨_, _, hnext _ _, rfl, .failed _ rfl hfail rfl⟩

end Run

end Upkeep.Dispatch
