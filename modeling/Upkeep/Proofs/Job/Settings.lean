import Upkeep.Job.Settings
import Upkeep.Proofs.Dispatch.Own
import Upkeep.Proofs.Session.Hops
import Upkeep.Session.Replay

/-! # Settings — what passes the check can be carried out

    Settings are looked at twice: by the check, which goes through the urls one
    by one and then takes them together, and by whoever makes a job of them,
    which begins with the last url.  Both turn down the same lists of urls
    (`checkUrls_eq_ok_iff`, `job_isOk_iff`), so a job can be made of all
    settings that pass.

    The check also sees to it that there is a phase or an order, which is what
    a dispatch depends on later: a job made of settings that pass never fails
    for the lack of a phase, and each step of its order is given its own data
    (`Faithful`). -/

namespace Upkeep

/-! ## Urls -/

/-- No client can be had for the urls: one of them cannot be read, or there are several and one is
    not for ssh. -/
def Unreachable (urls : List String) : Prop :=
  (∃ text ∈ urls, SessionUrl.read? text = none) ∨
    1 < urls.length ∧ ∃ text ∈ urls, ∃ url, SessionUrl.read? text = some url ∧ url.protocol ≠ .ssh

/-- Texts that can all be read are the texts of a list of urls. -/
theorem exists_parsed {urls : List String} (h : ∀ text ∈ urls, SessionUrl.read? text ≠ none) :
    ∃ parsed : List SessionUrl, urls.map SessionUrl.read? = parsed.map some := by
  induction urls with
  | nil => exact ⟨[], rfl⟩
  | cons text rest ih =>
      obtain ⟨hfirst, hrest⟩ := List.forall_mem_cons.mp h
      obtain ⟨url, hurl⟩ := Option.ne_none_iff_exists'.mp hfirst
      obtain ⟨parsed, hparsed⟩ := ih hrest
      refine ⟨url :: parsed, ?_⟩
      rw [List.map_cons, List.map_cons, hurl, hparsed]

/-- Else the texts are those of a list of urls, and if there are several, they are for ssh. -/
theorem not_unreachable_iff (urls : List String) :
    ¬ Unreachable urls ↔ ∃ parsed : List SessionUrl,
      urls.map SessionUrl.read? = parsed.map some ∧
      (1 < parsed.length → ∀ url ∈ parsed, url.protocol = .ssh) := by
  have hlength {parsed : List SessionUrl} (hread : urls.map SessionUrl.read? = parsed.map some) :
      urls.length = parsed.length := by
    simpa using congrArg List.length hread
  have hmem {parsed : List SessionUrl} (hread : urls.map SessionUrl.read? = parsed.map some)
      (found : Option SessionUrl) :
      (∃ text ∈ urls, SessionUrl.read? text = found) ↔ ∃ url ∈ parsed, some url = found := by
    rw [← List.mem_map, hread, List.mem_map]
  constructor
  · intro h
    rw [Unreachable, not_or] at h
    obtain ⟨hall, hssh⟩ := h
    obtain ⟨parsed, hread⟩ := exists_parsed fun text htext hnone => hall ⟨text, htext, hnone⟩
    refine ⟨parsed, hread, ?_⟩
    intro hseveral url hurl
    obtain ⟨text, htext, hfound⟩ := (hmem hread _).mpr ⟨url, hurl, rfl⟩
    by_contra hprotocol
    exact hssh ⟨by rwa [hlength hread], text, htext, url, hfound, hprotocol⟩
  · rintro ⟨parsed, hread, hssh⟩ (⟨text, htext, hnone⟩ | ⟨hseveral, text, htext, url, hfound, hno⟩)
    · obtain ⟨url, -, hsome⟩ := (hmem hread none).mp ⟨text, htext, hnone⟩
      exact nomatch hsome
    · obtain ⟨other, hother, hsame⟩ := (hmem hread (some url)).mp ⟨text, htext, hfound⟩
      obtain rfl := Option.some.inj hsame
      rw [hlength hread] at hseveral
      exact hno (hssh hseveral other hother)

/-- **CLIENT**: a client can be had for some urls exactly if none of them stands in the way. -/
theorem ofUrls_isOk_iff {urls : List String} (hne : urls ≠ []) :
    (∃ invocation, Invocation.ofUrls urls = .ok invocation) ↔ ¬ Unreachable urls := by
  rw [not_unreachable_iff]
  constructor
  · rintro ⟨invocation, h⟩
    obtain ⟨hops, url, hread, hssh, -⟩ := Invocation.ofUrls_eq_ok_iff.mp h
    refine ⟨hops ++ [url], hread, ?_⟩
    intro hseveral
    -- a hop among them asks for ssh all along
    obtain ⟨hop, rest, rfl⟩ : ∃ hop rest, hops = hop :: rest := by
      refine List.exists_cons_of_ne_nil ?_
      rintro rfl
      exact absurd hseveral (by simp)
    refine List.forall_mem_append.mpr ⟨fun hop hmem => (hssh hop hmem).1, ?_⟩
    rw [List.forall_mem_singleton]
    exact (hssh hop List.mem_cons_self).2
  · rintro ⟨parsed, hread, hssh⟩
    rcases List.eq_nil_or_concat parsed with rfl | ⟨hops, url, rfl⟩
    · exact absurd (List.map_eq_nil_iff.mp hread) hne
    · rw [List.concat_eq_append] at hread hssh
      refine ⟨_, Invocation.ofUrls_eq_ok_iff.mpr ⟨hops, url, hread, ?_, rfl⟩⟩
      intro hop hmem
      have hall := hssh (by
        rw [List.length_append, List.length_singleton]
        have := List.length_pos_of_mem hmem
        omega)
      exact ⟨hall hop (List.mem_append_left _ hmem), hall url (List.mem_append_right _ (by simp))⟩

namespace JobSettings

variable {settings : JobSettings}

/-! ## The check -/

/-- The urls pass one by one exactly if all of them can be read. -/
theorem readUrls_eq_ok_iff (urls : List String) :
    (urls.forM fun url => do
      let _ ← (Invocation.readUrl url).mapError SettingsError.url) = .ok () ↔
      ∀ text ∈ urls, SessionUrl.read? text ≠ none := by
  induction urls with
  | nil => exact iff_of_true rfl (List.forall_mem_nil _)
  | cons text rest ih =>
      rw [List.forM, List.forall_mem_cons, ← ih, Invocation.readUrl]
      cases SessionUrl.read? text with
      | none => simp [bind, Except.bind, Except.mapError]
      | some url => simp [bind, Except.bind, pure, Except.pure, Except.mapError]

/-- **URLS**: the check of the urls passes exactly if a client can be had for them. -/
theorem checkUrls_eq_ok_iff : settings.checkUrls = .ok () ↔ ¬ Unreachable settings.urls := by
  have hread := readUrls_eq_ok_iff settings.urls
  rw [checkUrls]
  cases hall : settings.urls.forM (fun url => do
      let _ ← (Invocation.readUrl url).mapError SettingsError.url) with
  | error error =>
      rw [hall] at hread
      have hnot : ¬ ∀ text ∈ settings.urls, SessionUrl.read? text ≠ none :=
        fun h => nomatch hread.mpr h
      refine iff_of_false (fun h => nomatch h) (fun h => hnot ?_)
      exact fun text htext hnone => h (Or.inl ⟨text, htext, hnone⟩)
  | ok =>
      have htexts := hread.mp hall
      simp only [bind, Except.bind]
      by_cases hseveral : 1 < settings.urls.length
      · have hne : settings.urls ≠ [] := List.ne_nil_of_length_pos (by omega)
        rw [if_pos hseveral, ← ofUrls_isOk_iff hne, invocation]
        cases Invocation.ofUrls settings.urls with
        | error error => simp [Except.mapError]
        | ok invocation => simp [Except.mapError, pure, Except.pure]
      · refine iff_of_true (if_neg hseveral) ?_
        rintro (⟨text, htext, hnone⟩ | ⟨hlength, -⟩)
        · exact htexts text htext hnone
        · exact hseveral hlength

/-- **STEPS**: the check of the order passes if there are steps and all have a name, or if there is
    none and a phase. -/
theorem checkSteps_eq_ok_iff : settings.checkSteps = .ok () ↔
    (∃ steps, settings.steps = some steps ∧ steps ≠ [] ∧
      ∀ step ∈ steps, isBlankString step.plugin = false) ∨
    settings.steps = none ∧ settings.phase.isSome = true := by
  rw [checkSteps.eq_def]
  split
  · next hnone => simp [hnone]
  · next steps hne hsome =>
    split
    · next index hindex =>
      have hblank : ¬ ∀ step ∈ steps, isBlankString step.plugin = false := by
        intro h
        rw [List.findIdx?_eq_none_iff.mpr h] at hindex
        exact nomatch hindex
      simp [hsome, hblank]
    · next hindex =>
      exact iff_of_true rfl (Or.inl ⟨steps, hsome, hne, List.findIdx?_eq_none_iff.mp hindex⟩)
  · next hnone =>
    cases settings.phase with
    | none => simp [hnone]
    | some phase => simp [hnone]

/-- All three have to pass. -/
theorem check_eq_ok_iff : settings.check = .ok () ↔
    settings.checkPhase = .ok () ∧ settings.checkUrls = .ok () ∧ settings.checkSteps = .ok () := by
  rw [check, Action.bind_eq_ok_iff]
  constructor
  · rintro ⟨_, hphase, h⟩
    obtain ⟨_, hurls, hsteps⟩ := Action.bind_eq_ok_iff.mp h
    exact ⟨hphase, hurls, hsteps⟩
  · rintro ⟨hphase, hurls, hsteps⟩
    exact ⟨(), hphase, Action.bind_eq_ok_iff.mpr ⟨(), hurls, hsteps⟩⟩

/-! ## The job -/

variable {σ : Type} {connect : Invocation → σ} {host : Host} {job : Job σ}

/-- The job that is made of settings. -/
theorem job_eq_ok_iff : settings.job connect host = .ok job ↔
    ∃ client, settings.client = .ok client ∧
      job = { assignment := settings.assignment, session := client.map connect, host
              data := settings.pluginData } := by
  rw [JobSettings.job, Action.bind_eq_ok_iff]
  simp only [pure, Except.pure, Except.ok.injEq, eq_comm]

/-- The client is there if there are urls. -/
theorem client_eq_ok_iff {client : Option Invocation} : settings.client = .ok client ↔
    settings.urls = [] ∧ client = none ∨
    settings.urls ≠ [] ∧ ∃ invocation, Invocation.ofUrls settings.urls = .ok invocation ∧
      client = some invocation := by
  rw [JobSettings.client, JobSettings.invocation]
  by_cases hurls : settings.urls = []
  · simp [hurls, eq_comm]
  · rw [if_neg (by simpa using hurls)]
    cases Invocation.ofUrls settings.urls with
    | error error => simp [hurls, Except.map, Except.mapError]
    | ok invocation => simp [hurls, Except.map, Except.mapError, eq_comm]

/-- **JOB**: settings can be made a job exactly if a client can be had for their urls. -/
theorem job_isOk_iff (connect : Invocation → σ) (host : Host) :
    (∃ job, settings.job connect host = .ok job) ↔ ¬ Unreachable settings.urls := by
  have hclient : (∃ job, settings.job connect host = .ok job) ↔
      ∃ client, settings.client = .ok client := by
    simp only [job_eq_ok_iff]
    constructor
    · rintro ⟨job, client, h, -⟩
      exact ⟨client, h⟩
    · rintro ⟨client, h⟩
      exact ⟨_, client, h, rfl⟩
  rw [hclient]
  by_cases hurls : settings.urls = []
  · refine iff_of_true ⟨none, client_eq_ok_iff.mpr (Or.inl ⟨hurls, rfl⟩)⟩ ?_
    rw [hurls]
    simp [Unreachable]
  · rw [← ofUrls_isOk_iff hurls]
    constructor
    · rintro ⟨client, h⟩
      rcases client_eq_ok_iff.mp h with ⟨hnil, -⟩ | ⟨-, invocation, hok, -⟩
      · exact absurd hnil hurls
      · exact ⟨invocation, hok⟩
    · rintro ⟨invocation, hok⟩
      exact ⟨_, client_eq_ok_iff.mpr (Or.inr ⟨hurls, invocation, hok, rfl⟩)⟩

/-- The job has a session exactly if there are urls. -/
theorem job_session (h : settings.job connect host = .ok job) :
    job.session.isSome = true ↔ settings.urls ≠ [] := by
  obtain ⟨client, hclient, rfl⟩ := job_eq_ok_iff.mp h
  rw [Option.isSome_map]
  rcases client_eq_ok_iff.mp hclient with ⟨hurls, rfl⟩ | ⟨hurls, invocation, -, rfl⟩
  · simp [hurls]
  · simp [hurls]

open Dispatch

variable [Session σ]

/-- What a job is to the settings that it was made of. -/
structure Faithful (settings : JobSettings) (job : Job σ) : Prop where
  session : job.session.isSome = true ↔ settings.urls ≠ []
  ordered : job.assignment.order.isSome = true ↔ settings.steps.isSome = true
  /-- The order is that of the steps, and there are some. -/
  order : ∀ steps, settings.steps = some steps →
    steps ≠ [] ∧ job.assignment.order = some (steps.map (·.plugin))
  /-- The `k`-th plugin that is run is that of the `k`-th step, and is given the data of this
      step. -/
  bound : ∀ registry, ∃ run, LeftAlone registry job run ∧
    ∀ steps, settings.steps = some steps → ∀ (k : Nat) (start : Start σ),
      run.starts[k]? = some start → ∃ step, steps[k]? = some step ∧
        start.name = step.plugin ∧ start.job.pluginData? = some step.data
  /-- It does not fail for the lack of a phase, whatever the registry is. -/
  phased : ∀ registry, (runJob registry job).1 ≠ .error .missingPhase

/-- Settings that have steps, or else a phase, make a job that is faithful to them. -/
theorem faithful_of_checkSteps (passes : settings.checkSteps = .ok ())
    (h : settings.job connect host = .ok job) : Faithful settings job := by
  have hsession := job_session h
  obtain ⟨client, -, rfl⟩ := job_eq_ok_iff.mp h
  have horder {steps : List JobStep} (hsteps : settings.steps = some steps) :
      settings.assignment.order = some (steps.map (·.plugin)) :=
    congrArg (Option.map _) hsteps
  refine ⟨hsession, ?_, ?_, ?_, ?_⟩
  · exact iff_of_eq (congrArg (· = true) Option.isSome_map)
  · intro steps hsteps
    refine ⟨?_, horder hsteps⟩
    rcases checkSteps_eq_ok_iff.mp passes with ⟨others, hothers, hne, -⟩ | ⟨hnone, -⟩
    · obtain rfl := Option.some.inj (hsteps.symm.trans hothers)
      exact hne
    · exact nomatch hsteps.symm.trans hnone
  · intro registry
    obtain ⟨run, halone⟩ := leftAlone registry
      { assignment := settings.assignment, session := client.map connect, host
        data := settings.pluginData }
    refine ⟨run, halone, ?_⟩
    intro steps hsteps k start hk
    have hname := halone.order _ (horder hsteps) k start hk
    rw [List.getElem?_map] at hname
    obtain ⟨step, hstep, hplugin⟩ := Option.map_eq_some_iff.mp hname
    refine ⟨step, hstep, hplugin.symm, ?_⟩
    -- the job is new, so it counts the places of its data as the order does
    have hdata := halone.data k start hk
    dsimp only at hdata
    rw [if_neg (by omega), Nat.add_sub_cancel_left, pluginData, hsteps, Option.getD_some,
      List.getElem?_map, hstep] at hdata
    exact hdata
  · intro registry
    refine runJob_phased registry ?_
    rcases checkSteps_eq_ok_iff.mp passes with ⟨steps, hsteps, -, -⟩ | ⟨-, hphase⟩
    · left
      rw [horder hsteps]
      rfl
    · exact Or.inr hphase

/-- **CHECK**: settings cannot be made a job exactly if a url cannot be read, or if there are
several and one is not for ssh, and then they do not pass the check.  Settings that pass are made a
job that is faithful to them. -/
theorem check_agrees_with_job (settings : JobSettings) (connect : Invocation → σ) (host : Host) :
    ((∃ error, settings.job connect host = .error error) ↔ Unreachable settings.urls) ∧
    (Unreachable settings.urls → ∃ error, settings.check = .error error) ∧
    (settings.check = .ok () →
      ∃ job, settings.job connect host = .ok job ∧ Faithful settings job) := by
  refine ⟨?_, ?_, ?_⟩
  · have hok := settings.job_isOk_iff connect host
    cases hjob : settings.job connect host with
    | error error =>
        rw [hjob] at hok
        refine iff_of_true ⟨error, rfl⟩ ?_
        by_contra hnot
        obtain ⟨job, hsome⟩ := hok.mpr hnot
        exact nomatch hsome
    | ok job =>
        rw [hjob] at hok
        refine iff_of_false ?_ (hok.mp ⟨job, rfl⟩)
        rintro ⟨error, herror⟩
        exact nomatch herror
  · intro hurls
    cases hcheck : settings.check with
    | error error => exact ⟨error, rfl⟩
    | ok =>
        obtain ⟨-, hpass, -⟩ := check_eq_ok_iff.mp hcheck
        exact absurd hurls (checkUrls_eq_ok_iff.mp hpass)
  · intro hcheck
    obtain ⟨-, hurls, hsteps⟩ := check_eq_ok_iff.mp hcheck
    obtain ⟨job, hjob⟩ := (settings.job_isOk_iff connect host).mpr (checkUrls_eq_ok_iff.mp hurls)
    exact ⟨job, hjob, faithful_of_checkSteps hsteps hjob⟩

/-- A check without data and an activation with some, on a device behind a hop. -/
def checkAndActivate : JobSettings where
  urls := ["ssh://jump", "ssh://admin@r1"]
  steps := some [{ plugin := "Node Status Check" },
    { plugin := "Install Activate", data := .ofFields [("mode", .text "issu")] }]

/-- They are two names in the order, and two data by their places. -/
theorem checkAndActivate_agrees :
    checkAndActivate.check = .ok () ∧
      ∃ job : Job Replay,
        checkAndActivate.job (fun _ => {}) { files := { root := "/" } } = .ok job ∧
        Faithful checkAndActivate job ∧
        job.assignment.order = some ["Node Status Check", "Install Activate"] ∧
        job.data.length = 2 := by
  have hpass : checkAndActivate.check = .ok () := by decide +kernel
  obtain ⟨job, hjob, hfaithful⟩ :=
    (check_agrees_with_job checkAndActivate (fun _ => ({} : Replay))
      { files := { root := "/" } }).2.2 hpass
  refine ⟨hpass, job, hjob, hfaithful, (hfaithful.order _ rfl).2, ?_⟩
  obtain ⟨client, -, rfl⟩ := job_eq_ok_iff.mp hjob
  rfl

end JobSettings

end Upkeep
