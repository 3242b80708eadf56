import Upkeep.Proofs.Dispatch.Conclusion

/-! # Connections — every body finds the session that its plugin needs

    A dispatch gives its session to the plugins that are invoked, one after the
    other, and to nobody else (`HandedOn`).  Each time the session is made to suit
    the plugin first.  If that fails no body is started, and the dispatch fails
    with what the session has to say, under the name of the plugin
    (`Invocation.Managed`).

    Bodies that leave the connection alone hand on what they were given, so what
    a replayed session has counted behind a run is decided by the needs of the
    plugins in a row (`HandedOn.gate`). -/

namespace Upkeep.Dispatch

open Session (suit)

variable {σ : Type}

/-! ## Invocations -/

/-- A plugin that is invoked: its entry, and the job when its turn comes. -/
structure Invocation (σ : Type) where
  entry : CatalogEntry σ
  job : Job σ

/-- Whether the plugin needs a connection. -/
def Invocation.needed (invocation : Invocation σ) : Bool :=
  invocation.entry.plugin.needsConnection

variable [Session σ]

/-- The plugins that are invoked for some entries: all up to the first that fails, and that one. -/
def invocations : List (CatalogEntry σ) → Job σ → List (Invocation σ)
  | [], _ => []
  | entry :: rest, job => ⟨entry, job⟩ :: match invoke entry job with
    | (.ok _, mid) => invocations rest mid
    | (.error _, _) => []

namespace Invocation

/-- What making the session suit the plugin comes to, if there is a session. -/
def suited (invocation : Invocation σ) : Option (Outcome σ Unit) :=
  invocation.job.session.map fun session =>
    suit invocation.needed session invocation.job.host.files

/-- The body that is started, if nothing stands in the way of it. -/
def start? (invocation : Invocation σ) : Option (Start σ) :=
  match prepare invocation.entry invocation.job with
  | (.ok (), ready) => some ⟨invocation.entry, ready⟩
  | (.error _, _) => none

/-- The session as the body leaves it, or as it has been made to suit if no body is started. -/
def left (invocation : Invocation σ) : Option σ :=
  match invocation.start? with
  | some start => start.left.session
  | none => invocation.suited.map Outcome.next

/-- What an invocation has to do with the session, and what becomes of the dispatch if that does
    not work. -/
structure Managed (invocation : Invocation σ) (result : Except DispatchError (List String)) :
    Prop where
  /-- A body is started exactly if the session can be made to suit, or if there is none and none
  is needed. -/
  starts : invocation.start?.isSome = true ↔ match invocation.suited with
    | none => invocation.needed = false
    | some outcome => outcome.result = .ok ()
  /-- It is the body of the plugin, and it is given the session that has been made to suit. -/
  given : ∀ start ∈ invocation.start?, start.entry = invocation.entry ∧
    start.job.session = invocation.suited.map Outcome.next
  /-- A session that a body is given is connected exactly if the plugin needs that. -/
  connected : ∀ start ∈ invocation.start?, ∀ session ∈ start.job.session,
    Session.isConnected session = invocation.needed
  /-- A plugin that needs a session and has none fails. -/
  lacking : invocation.job.session = none → invocation.needed = true →
    invocation.start? = none ∧
      result = .error (.plugin invocation.entry.descriptor.name (.session .notConnected))
  /-- A plugin whose session cannot be made to suit it fails as the session does. -/
  failing : ∀ outcome ∈ invocation.suited, ∀ error, outcome.result = .error error →
    invocation.start? = none ∧
      result = .error (.plugin invocation.entry.descriptor.name (.session error))

end Invocation

/-! ## One invocation -/

/-- Making the session suit: without a session nothing can be done for a plugin that needs one. -/
theorem reconcile_session (needed : Bool) (job : Job σ) :
    ((reconcile needed).comes job).2.session
        = job.session.map (fun session => (suit needed session job.host.files).next) ∧
      ((reconcile needed).comes job).1 = match job.session with
        | none => if needed then .error (.session .notConnected) else .ok ()
        | some session => (suit needed session job.host.files).result.mapError .session := by
  obtain ⟨host, hcomes, -⟩ := reconcile_comes needed job
  rw [hcomes]
  exact ⟨rfl, rfl⟩

namespace Invocation

/-- **PREPARING**: up to the start of its body, the session is made to suit a plugin, and nothing
    else becomes of it. -/
theorem prepare_session (invocation : Invocation σ) :
    (prepare invocation.entry invocation.job).2.session
        = invocation.suited.map Outcome.next ∧
      (prepare invocation.entry invocation.job).1 = match invocation.suited with
        | none => if invocation.needed then .error (.session .notConnected) else .ok ()
        | some outcome => outcome.result.mapError .session := by
  obtain ⟨hsession, hresult⟩ := reconcile_session invocation.needed
    (announce invocation.entry.descriptor.name invocation.job)
  refine ⟨hsession.trans (Option.map_map ..).symm, hresult.trans ?_⟩
  rw [suited]
  show (match invocation.job.session with
    | none => _
    | some session => _) = _
  cases invocation.job.session with
  | none => rfl
  | some session => rfl

/-- What has become of the session when an invocation is over. -/
theorem invoke_session (invocation : Invocation σ) :
    (invoke invocation.entry invocation.job).2.session = invocation.left := by
  have hsession := invocation.prepare_session.1
  rw [left, start?]
  rcases hprepare : prepare invocation.entry invocation.job with ⟨error | _, ready⟩
  all_goals rw [hprepare] at hsession
  · obtain ⟨host, habandon⟩ := abandon_job error ready
    rw [invoke_unready hprepare, habandon]
    exact hsession
  · rw [invoke_ready hprepare]
    cases (Start.mk invocation.entry ready).result with
    | ok => rfl
    | error error =>
        obtain ⟨host, habandon⟩ := abandon_job error (Start.mk invocation.entry ready).left
        dsimp only
        rw [habandon]

/-- A body is started if the preparation has succeeded, and on the job that it leaves. -/
theorem start?_eq_some {invocation : Invocation σ} {start : Start σ} :
    invocation.start? = some start ↔ start.entry = invocation.entry ∧
      prepare invocation.entry invocation.job = (.ok (), start.job) := by
  obtain ⟨entry, job⟩ := start
  rw [start?]
  rcases prepare invocation.entry invocation.job with ⟨error | _, ready⟩
  · constructor
    · exact fun h => nomatch h
    · exact fun h => nomatch (Prod.mk.inj h.2).1
  · constructor
    · rintro ⟨⟩
      exact ⟨rfl, rfl⟩
    · rintro ⟨rfl, hready⟩
      obtain ⟨-, rfl⟩ := Prod.mk.inj hready
      rfl

/-- The body is given the session that has been made to suit. -/
theorem start?_session {invocation : Invocation σ} {start : Start σ}
    (h : invocation.start? = some start) :
    start.job.session = invocation.suited.map Outcome.next := by
  obtain ⟨-, hready⟩ := start?_eq_some.mp h
  have hsession := invocation.prepare_session.1
  rwa [hready] at hsession

/-- A plugin that cannot be prepared for fails, and its body is not started. -/
theorem not_started {invocation : Invocation σ} {error : PluginError}
    (h : (prepare invocation.entry invocation.job).1 = .error error) :
    invocation.start? = none ∧ (invoke invocation.entry invocation.job).1
      = .error (.plugin invocation.entry.descriptor.name error) := by
  rcases hprepare : prepare invocation.entry invocation.job with ⟨found | _, ready⟩
  all_goals rw [hprepare] at h
  · obtain rfl := Except.error.inj h
    rw [start?, hprepare, invoke_unready hprepare]
    exact ⟨rfl, rfl⟩
  · exact nomatch h

/-- Whether a body is started is decided by what making the session suit comes to. -/
theorem start?_isSome (invocation : Invocation σ) :
    invocation.start?.isSome = true ↔ match invocation.suited with
      | none => invocation.needed = false
      | some outcome => outcome.result = .ok () := by
  have hresult := invocation.prepare_session.2
  have hstarts : invocation.start?.isSome = true ↔
      (prepare invocation.entry invocation.job).1 = .ok () := by
    rw [start?]
    rcases prepare invocation.entry invocation.job with ⟨error | _, ready⟩
    · exact ⟨(nomatch ·), (nomatch ·)⟩
    · exact ⟨fun _ => rfl, fun _ => rfl⟩
  rw [hstarts, hresult]
  cases invocation.suited with
  | none =>
      cases invocation.needed with
      | true => exact ⟨(nomatch ·), (nomatch ·)⟩
      | false => exact ⟨fun _ => rfl, fun _ => rfl⟩
  | some outcome =>
      obtain ⟨result, next, files, elapsed, records⟩ := outcome
      cases result with
      | ok => exact ⟨fun _ => rfl, fun _ => rfl⟩
      | error error => exact ⟨(nomatch ·), (nomatch ·)⟩

/-- A session that a body is given is connected exactly if the plugin needs that. -/
theorem start?_connected (lawful : Session.Lawful σ) {invocation : Invocation σ}
    {start : Start σ} (h : invocation.start? = some start) :
    ∀ session ∈ start.job.session, Session.isConnected session = invocation.needed := by
  have hresult := invocation.start?_isSome.mp (by rw [h]; rfl)
  intro session hgiven
  obtain ⟨outcome, hsuited, rfl⟩ := Option.map_eq_some_iff.mp ((start?_session h).symm.trans hgiven)
  rw [hsuited] at hresult
  obtain ⟨before, -, rfl⟩ := Option.map_eq_some_iff.mp hsuited
  exact Session.suit_connected lawful hresult

/-- **MANAGED**: so it is for every plugin that is invoked, if whatever it fails with becomes the
    result. -/
theorem managed (lawful : Session.Lawful σ) {invocation : Invocation σ}
    {result : Except DispatchError (List String)}
    (h : ∀ error, (invoke invocation.entry invocation.job).1 = .error error →
      result = .error error) : invocation.Managed result where
  starts := invocation.start?_isSome
  given := fun start hstart => ⟨(start?_eq_some.mp hstart).1, start?_session hstart⟩
  connected := fun start hstart => start?_connected lawful hstart
  lacking := by
    intro hnone hneeded
    have hresult := invocation.prepare_session.2
    rw [suited, hnone, hneeded] at hresult
    obtain ⟨hstart, hinvoke⟩ := not_started hresult
    exact ⟨hstart, h _ hinvoke⟩
  failing := by
    intro outcome hsuited error herror
    have hresult := invocation.prepare_session.2
    rw [Option.mem_def.mp hsuited] at hresult
    dsimp only at hresult
    rw [herror] at hresult
    obtain ⟨hstart, hinvoke⟩ := not_started hresult
    exact ⟨hstart, h _ hinvoke⟩

end Invocation

/-! ## Runs -/

variable {entries : List (CatalogEntry σ)} {job : Job σ}

/-- Only plugins of the entries are invoked. -/
theorem invocations_entry {invocation : Invocation σ} (h : invocation ∈ invocations entries job) :
    invocation.entry ∈ entries := by
  induction entries generalizing job with
  | nil => exact nomatch h
  | cons entry rest ih =>
      rcases List.mem_cons.mp h with rfl | hrest
      · exact List.mem_cons_self
      · rcases hinvoke : invoke entry job with ⟨_ | _, mid⟩
        all_goals rw [hinvoke] at hrest
        · exact nomatch hrest
        · exact List.mem_cons_of_mem _ (ih hrest)

/-- A run fails with whatever a plugin fails with that is invoked. -/
theorem runEntries_fails {invocation : Invocation σ} (h : invocation ∈ invocations entries job)
    {error : DispatchError} (herror : (invoke invocation.entry invocation.job).1 = .error error) :
    (runEntries entries job).1 = .error error := by
  induction entries generalizing job with
  | nil => exact nomatch h
  | cons entry rest ih =>
      rw [runEntries_cons]
      rcases List.mem_cons.mp h with rfl | hrest
      · rcases hinvoke : invoke entry job with ⟨_ | _, mid⟩
        all_goals rw [hinvoke] at herror
        · exact herror
        · exact nomatch herror
      · rcases hinvoke : invoke entry job with ⟨_ | _, mid⟩
        all_goals rw [hinvoke] at hrest
        · exact nomatch hrest
        · exact ih hrest

/-- The bodies of the plugins that are invoked, from the first one on. -/
theorem started_cons (entry : CatalogEntry σ) (rest : List (CatalogEntry σ)) (job : Job σ) :
    (invocations (entry :: rest) job).filterMap Invocation.start? = match prepare entry job with
      | (.error _, _) => []
      | (.ok (), ready) => ⟨entry, ready⟩ :: match (Start.mk entry ready).result with
        | .error _ => []
        | .ok () => (invocations rest
            (complete entry.descriptor.name (Start.mk entry ready).left)).filterMap
              Invocation.start? := by
  rw [invocations, List.filterMap_cons, Invocation.start?]
  rcases hprepare : prepare entry job with ⟨error | _, ready⟩
  · rw [invoke_unready hprepare]
    rfl
  · rw [invoke_ready hprepare]
    dsimp only
    cases (Start.mk entry ready).result with
    | error error => rfl
    | ok => rfl

/-- The bodies that are started in a run are those of the plugins that are invoked. -/
theorem Run.starts_eq (run : Run entries job) :
    run.starts = (invocations entries job).filterMap Invocation.start? := by
  obtain ⟨done, rest, mid, last, result, final, split, completes, stops⟩ := run
  subst split
  dsimp only [Run.starts]
  induction completes with
  | nil job =>
      rw [List.map_nil, List.nil_append, List.nil_append]
      cases stops with
      | finished => rfl
      | unready hready =>
          rw [started_cons, hready]
          rfl
      | failed hready hfail =>
          rw [started_cons, hready]
          dsimp only
          rw [hfail]
          rfl
  | cons hready hok _ ih =>
      rw [List.map_cons, List.cons_append, List.cons_append, started_cons, hready]
      dsimp only
      rw [hok, ih stops]

/-- The session goes from each plugin that is invoked to the next one, and nobody else is given
    it. -/
inductive HandedOn : Option σ → List (Invocation σ) → Option σ → Prop where
  | nil (session : Option σ) : HandedOn session [] session
  | cons (invocation : Invocation σ) {rest : List (Invocation σ)} {last : Option σ} :
      HandedOn invocation.left rest last →
      HandedOn invocation.job.session (invocation :: rest) last

/-- **HANDED ON**: a run does nothing to its session besides. -/
theorem runEntries_handedOn (entries : List (CatalogEntry σ)) (job : Job σ) :
    HandedOn job.session (invocations entries job) (runEntries entries job).2.session := by
  induction entries generalizing job with
  | nil => exact .nil _
  | cons entry rest ih =>
      have hleft := (Invocation.mk entry job).invoke_session
      rw [runEntries_cons, invocations]
      rcases hinvoke : invoke entry job with ⟨_ | _, mid⟩
      all_goals
        rw [hinvoke] at hleft
        refine .cons ⟨entry, job⟩ ?_
        rw [← hleft]
      · exact .nil _
      · exact ih mid

/-! ## Dispatches -/

/-- Finalizing makes the session suit a job that needs no connection any more, unless the job is
    over already. -/
theorem finish_session (ran : Except DispatchError Unit × Job σ) :
    (finish ran).2.session = if ran.2.isFinalized then ran.2.session
      else ran.2.session.map fun session => (suit false session ran.2.host.files).next := by
  have hfinalize (succeeded : Bool) (job : Job σ) :
      (job.finalize succeeded).session = if job.isFinalized then job.session
        else job.session.map fun session => (suit false session job.host.files).next := by
    cases hover : job.isFinalized with
    | true => rw [Job.finalize, if_pos hover, if_pos rfl]
    | false =>
        obtain ⟨host, hfinal, -⟩ := Job.finalize_eq succeeded hover
        rw [hfinal, if_neg Bool.false_ne_true]
        exact congrArg (job.session.map ·) (funext (Session.letGo_eq job.host.files))
  rcases ran with ⟨_ | _, job⟩
  · exact hfinalize false job
  · exact hfinalize true job

/-- The plugins that a dispatch invokes. -/
def Dispatcher.invoked (registry : Registry σ) (job : Job σ) (dispatcher : Dispatcher) :
    List (Invocation σ) :=
  invocations (dispatcher.plan registry job).entries (dispatcher.plan registry job).job

/-- How a dispatch deals with the session of its job. -/
structure Dispatcher.Tends (dispatcher : Dispatcher) (registry : Registry σ) (job : Job σ) :
    Prop where
  /-- The bodies that are started are those of plugins that are invoked. -/
  starts : (run (dispatcher.plan registry job).entries (dispatcher.plan registry job).job).starts
    = (dispatcher.invoked registry job).filterMap Invocation.start?
  /-- Each of them has the session that its plugin needs. -/
  managed : ∀ invocation ∈ dispatcher.invoked registry job,
    invocation.Managed (dispatcher.dispatch registry job).1
  /-- Nobody but these plugins is given the session. -/
  handed : HandedOn job.session (dispatcher.invoked registry job)
    (dispatcher.working registry job).2.session
  /-- Behind them the session is let go of, unless the job is over already. -/
  released : (dispatcher.dispatch registry job).2.session
    = if (dispatcher.working registry job).2.isFinalized then
        (dispatcher.working registry job).2.session
      else (dispatcher.working registry job).2.session.map fun session =>
        (suit false session (dispatcher.working registry job).2.host.files).next

/-- **TENDING**: so it is for every dispatch over sessions that keep to what their calls are
    called. -/
theorem Dispatcher.tends (lawful : Session.Lawful σ) (dispatcher : Dispatcher)
    (registry : Registry σ) (job : Job σ) : dispatcher.Tends registry job where
  starts := (run _ _).starts_eq
  managed := by
    intro invocation hinvoked
    refine Invocation.managed lawful fun error herror => ?_
    have hran := runEntries_fails hinvoked herror
    rw [dispatcher.dispatch_eq, dispatcher.working_eq]
    rcases hentries : runEntries (dispatcher.plan registry job).entries
      (dispatcher.plan registry job).job with ⟨_ | _, left⟩
    all_goals rw [hentries] at hran
    · exact congrArg Except.error (Except.error.inj hran)
    · exact nomatch hran
  handed := by
    have hhanded := runEntries_handedOn (dispatcher.plan registry job).entries
      (dispatcher.plan registry job).job
    -- neither making the plan nor telling of its flaw does anything to the session
    obtain ⟨host, hplan, -⟩ := dispatcher.plan_reported registry job
    obtain ⟨last, hsettle, -⟩ := settle_reported (dispatcher.plan registry job).flaw
      (runEntries (dispatcher.plan registry job).entries (dispatcher.plan registry job).job)
    have hbefore : (dispatcher.plan registry job).job.session = job.session := by rw [hplan]
    rw [hbefore] at hhanded
    rw [dispatcher.working_eq, hsettle]
    exact hhanded
  released := by
    rw [dispatcher.dispatch_eq]
    exact finish_session _

/-! ## Counting -/

/-- A body that leaves the connection alone leaves it as it has been made to suit its plugin. -/
theorem Invocation.left_gate {invocation : Invocation Replay}
    (body : invocation.entry.plugin.task.Keeps fun job => job.session.map Replay.gate) :
    invocation.left.map Replay.gate
      = (invocation.job.session.map Replay.gate).map (·.turn invocation.needed) := by
  have hsuited : (invocation.suited.map Outcome.next).map Replay.gate
      = (invocation.job.session.map Replay.gate).map (·.turn invocation.needed) := by
    rw [Invocation.suited]
    cases invocation.job.session with
    | none => rfl
    | some replay => exact congrArg some (replay.suit_gate invocation.needed _).2
  rw [Invocation.left]
  split
  · next start hstart =>
    obtain ⟨hentry, -⟩ := Invocation.start?_eq_some.mp hstart
    rw [← hsuited, ← Invocation.start?_session hstart, Start.left, hentry]
    exact body start.job
  · exact hsuited

/-- **TURNS**: a session that is handed on by such bodies takes one turn for each plugin. -/
theorem HandedOn.gate {first last : Option Replay} {invoked : List (Invocation Replay)}
    (h : HandedOn first invoked last)
    (bodies : ∀ invocation ∈ invoked,
      invocation.entry.plugin.task.Keeps fun job => job.session.map Replay.gate) :
    last.map Replay.gate
      = (first.map Replay.gate).map ((invoked.map Invocation.needed).foldl Gate.turn) := by
  induction h with
  | nil session => exact Option.map_id'.symm
  | cons invocation _ ih =>
      rw [ih fun other hother => bodies other (List.mem_cons_of_mem _ hother),
        Invocation.left_gate (bodies invocation List.mem_cons_self), Option.map_map]
      rfl

/-- **COUNTS**: at the end of a job whose session was not connected, and whose bodies leave the
    connection alone, it has been connected and disconnected once for each block of plugins that
    need it. -/
theorem Dispatcher.released_gate (dispatcher : Dispatcher) {registry : Registry Replay}
    {job : Job Replay} {replay : Replay} (session : job.session = some replay)
    (closed : replay.connected = false) (pending : job.outcome = none)
    (bodies : ∀ entry ∈ registry, entry.plugin.task.Keeps Job.outcome ∧
      entry.plugin.task.Keeps fun job => job.session.map Replay.gate) :
    (dispatcher.dispatch registry job).2.session.map Replay.gate
      = let turns := blocks ((dispatcher.invoked registry job).map Invocation.needed)
        some ⟨false, replay.log.connects + turns, replay.log.disconnects + turns⟩ := by
  have htends := dispatcher.tends Replay.lawful registry job
  have hpending : (dispatcher.working registry job).2.isFinalized = false := by
    rw [Job.isFinalized,
      working_pending dispatcher pending fun entry hentry => (bodies entry hentry).1]
    rfl
  have hgate := htends.handed.gate fun invocation hinvoked =>
    (bodies _ (dispatcher.plan_registered (invocations_entry hinvoked))).2
  have hopening : replay.gate = ⟨false, replay.log.connects, replay.log.disconnects⟩ := by
    rw [Replay.gate, closed]
  rw [session, Option.map_some, hopening, Option.map_some] at hgate
  obtain ⟨last, hlast, hturned⟩ := Option.map_eq_some_iff.mp hgate
  rw [htends.released, hpending, if_neg Bool.false_ne_true, hlast]
  refine congrArg some ?_
  rw [(last.suit_gate false _).2, hturned]
  exact turns_blocks _ _ _

/-- **CONNECTED AS NEEDED**: over a session that keeps to what its calls are called, recorded or
    not, every dispatch gives each body the session that its plugin needs, and fails with what the
    session has to say if that cannot be had.  To this end it connects only a session that is not
    connected, and disconnects only one that is.  A replayed session that is not connected at
    first is so again at the end, and has been connected and disconnected once for each block of
    plugins in a row that need it. -/
theorem dispatch_suits_session (lawful : Session.Lawful σ) (dispatcher : Dispatcher) :
    (∀ (registry : Registry σ) (job : Job σ), dispatcher.Tends registry job) ∧
      (∀ (registry : Registry (Recorded σ)) (job : Job (Recorded σ)),
        dispatcher.Tends registry job) ∧
      (∀ (needed : Bool) (files : Files) (recorded : Recorded σ),
        (suit needed recorded files).next.calls = recorded.calls ++
          match needed, Session.isConnected recorded.session with
          | true, false => [.connect (Session.connect recorded.session files).result]
          | false, true => [.disconnect (Session.disconnect recorded.session files).result]
          | _, _ => []) ∧
      ∀ (registry : Registry Replay) (job : Job Replay) (replay : Replay),
        job.session = some replay → replay.connected = false → job.outcome = none →
        (∀ entry ∈ registry, entry.plugin.task.Keeps Job.outcome ∧
          entry.plugin.task.Keeps fun job => job.session.map Replay.gate) →
        (dispatcher.dispatch registry job).2.session.map Replay.gate
          = let turns := blocks ((dispatcher.invoked registry job).map Invocation.needed)
            some {
              connected := false
              connects := replay.log.connects + turns
              disconnects := replay.log.disconnects + turns } :=
  ⟨dispatcher.tends lawful, dispatcher.tends (Recorded.lawful lawful), Session.calls_suit,
    fun _ _ _ session closed pending bodies =>
      dispatcher.released_gate session closed pending bodies⟩

/-- Two plugins that need a session, one that does not, and another one that does. -/
def alternating : Registry σ := [
  ⟨"site.login", { manifest := (Manifest.named "login").forPhases ["Check"], task := pure () }⟩,
  ⟨"site.show", { manifest := (Manifest.named "show").forPhases ["Check"], task := pure () }⟩,
  ⟨"site.parse", { manifest := (Manifest.named "parse").forPhases ["Check"],
                   needsConnection := false, task := pure () }⟩,
  ⟨"site.logout", { manifest := (Manifest.named "logout").forPhases ["Check"], task := pure () }⟩]

/-- A job that is to be checked over a session. -/
def checkedOver (session : σ) : Job σ where
  assignment := { hostname := "router", logDir := "log", phase := some "Check" }
  session := some session
  host := { files := { root := "/" } }

/-- A session that is not connected. -/
def offline : Replay := { connected := false }

/-- One that can be connected only once. -/
def connectableOnce : Perturbed Replay where
  inner := offline
  faults := [⟨.connect, 2, .connectionLost⟩]

/-- The session is connected twice for these plugins, and where the second time fails, the dispatch
    fails with the last of them. -/
theorem dispatch_suits_alternating :
    (checkedOver offline).outcome = none ∧
      (∀ entry ∈ alternating, entry.plugin.task.Keeps Job.outcome ∧
        entry.plugin.task.Keeps fun job => job.session.map Replay.gate) ∧
      (Dispatcher.phase.dispatch alternating (checkedOver offline)).2.session.map Replay.gate
        = some ⟨false, 2, 2⟩ ∧
      (Dispatcher.phase.dispatch alternating (checkedOver connectableOnce)).1
        = .error (.plugin "logout" (.session .connectionLost)) := by
  have bodies : ∀ entry ∈ alternating, entry.plugin.task.Keeps Job.outcome ∧
      entry.plugin.task.Keeps fun job => job.session.map Replay.gate := by
    intro entry hentry
    simp only [alternating, List.mem_cons, List.not_mem_nil, or_false] at hentry
    rcases hentry with rfl | rfl | rfl | rfl
    all_goals exact ⟨fun _ => rfl, fun _ => rfl⟩
  obtain ⟨-, -, -, hcounts⟩ := dispatch_suits_session Replay.lawful .phase
  obtain ⟨htends, -⟩ := dispatch_suits_session (Perturbed.lawful Replay.lawful) .phase
  obtain ⟨invocation, hlast, hname, outcome, hsuited, hfails⟩ : ∃ invocation,
      (Dispatcher.phase.invoked alternating (checkedOver connectableOnce))[3]? = some invocation ∧
      invocation.entry.descriptor.name = "logout" ∧
      ∃ outcome, invocation.suited = some outcome ∧ outcome.result = .error .connectionLost :=
    ⟨_, rfl, rfl, _, rfl, rfl⟩
  have hfailing := ((htends _ _).managed invocation (List.mem_of_getElem? hlast)).failing
    outcome hsuited _ hfails
  rw [hname] at hfailing
  exact ⟨rfl, bodies, hcounts alternating _ offline rfl rfl rfl bodies, hfailing.2⟩

end Upkeep.Dispatch
