import Upkeep.Proofs.Session.Piped
import Upkeep.Proofs.Session.Script

/-! # Afresh — a connection begins with nothing

    Whatever a session is asked, and whatever comes of it, it holds no text while
    it is not connected.  So nothing is carried from one connection to the next,
    and what is found was received since the session was connected anew
    (`nothing_carried_over`).

    The text is accounted for turn by turn: what is held before and what comes in
    is what is thrown away, what is given out, and what is held behind
    (`Ledger.Kept`).  A session that is connected anew brings nothing into this
    from before.  A piped session can lose its connection in four ways — it is
    disconnected, it is connected anew, it cannot be woken up, its program ends —
    and behind each of them it has let every end of it go.  What comes to it is
    accounted for where the connection is in one place (`Client.turn_kept`), and
    that account is its own (`Piped.received_piped`). -/

namespace Upkeep

/-- The text that a call gives out: that before a match, and the match itself. -/
def Call.given : Call → Text
  | .expect _ _ (.ok found) => found.before ++ found.text
  | _ => []

theorem Call.given_of_found {call : Call} {found : Match} (h : call.found? = some found) :
    call.given = found.before ++ found.text := by
  match call with
  | .expect _ _ (.ok other) =>
      obtain rfl := Option.some.inj h
      rfl
  | .expect _ _ (.error _) => exact nomatch h
  | .connect _ => exact nomatch h
  | .disconnect _ => exact nomatch h
  | .reconnect _ _ => exact nomatch h
  | .send _ _ => exact nomatch h

/-! ## Accounts -/

namespace Session

variable {σ : Type}

/-- How the text of a session is accounted for. -/
structure Ledger (σ : Type) where
  /-- The text that has come and was not given out. -/
  held : σ → Text
  /-- The text that comes in a turn. -/
  received : Turn σ → Text

/-- A session is connected anew by a turn if it was not connected, or was asked to connect anew,
    and is connected then. -/
def Turn.Anew [Session σ] (turn : Turn σ) : Prop :=
  Session.isConnected turn.behind = true ∧
    (Session.isConnected turn.before = false ∨
      ∃ forced answer, turn.call = .reconnect forced answer)

namespace Ledger

variable [Session σ]

/-- What a turn does to the account. -/
structure Kept (ledger : Ledger σ) (turn : Turn σ) : Prop where
  /-- No text is held without a connection. -/
  idle : Session.isConnected turn.behind = false → ledger.held turn.behind = []
  /-- What is given out and what is held then was held before or has come in. -/
  balance : ∃ gone, ledger.held turn.before ++ ledger.received turn
    = gone ++ turn.call.given ++ ledger.held turn.behind
  /-- What is held over a new connection has come in over it. -/
  anew : turn.Anew → ∃ gone, ledger.received turn = gone ++ ledger.held turn.behind

/-- The turns of a row keep the text of one connection from the next. -/
structure Afresh (ledger : Ledger σ) (session : σ) (asked : List (Request × Files)) : Prop where
  /-- No text is held without a connection, at first and behind each turn. -/
  start : Session.isConnected session = false → ledger.held session = []
  idle : ∀ turn ∈ turns session asked,
    Session.isConnected turn.behind = false → ledger.held turn.behind = []
  /-- What is found behind a turn that has connected the session anew, be it the last one or not,
  has come in from that turn on. -/
  since : ∀ earlier anew later wait rest found,
    turns session asked = earlier ++ anew :: (later ++ wait :: rest) → anew.Anew →
    wait.call.found? = some found →
    ∃ gone, (anew :: (later ++ [wait])).flatMap ledger.received
      = gone ++ (found.before ++ found.text) ++ ledger.held wait.behind

variable {ledger : Ledger σ} {session : σ} {asked : List (Request × Files)}

/-- A turn that gives out nothing and leaves nothing keeps the account. -/
theorem Kept.of_nothing {turn : Turn σ} (hgiven : turn.call.given = [])
    (hheld : ledger.held turn.behind = []) : ledger.Kept turn where
  idle _ := hheld
  balance := by
    rw [hgiven, hheld]
    exact ⟨_, by rw [List.append_nil, List.append_nil]⟩
  anew _ := by
    rw [hheld]
    exact ⟨_, (List.append_nil _).symm⟩

/-- So does a turn that keeps the balance and does not connect a session. -/
theorem Kept.of_steady {turn : Turn σ}
    (hidle : Session.isConnected turn.behind = false → ledger.held turn.behind = [])
    (hsteady : Session.isConnected turn.before = false → Session.isConnected turn.behind = false)
    (hcall : ∀ forced answer, turn.call ≠ .reconnect forced answer)
    (hbalance : ∃ gone, ledger.held turn.before ++ ledger.received turn
      = gone ++ turn.call.given ++ ledger.held turn.behind) : ledger.Kept turn where
  idle := hidle
  balance := hbalance
  anew := by
    rintro ⟨hbehind, hbefore | ⟨forced, answer, hanew⟩⟩
    · rw [hsteady hbefore] at hbehind
      exact nomatch hbehind
    · exact absurd hanew (hcall forced answer)

/-- A turn keeps the account however its sessions are seen. -/
theorem Kept.of_seen {ρ : Type} [Session ρ] {other : Ledger ρ} {f : σ → ρ} {turn : Turn σ}
    (hconnected : ∀ session, Session.isConnected (f session) = Session.isConnected session)
    (hheld : ∀ session, other.held (f session) = ledger.held session)
    (hreceived : other.received (turn.seen f) = ledger.received turn) (h : ledger.Kept turn) :
    other.Kept (turn.seen f) where
  idle hbehind := (hheld _).trans (h.idle ((hconnected _).symm.trans hbehind))
  balance := by
    obtain ⟨gone, hgone⟩ := h.balance
    refine ⟨gone, ?_⟩
    rw [hreceived, Turn.seen, hheld, hheld]
    exact hgone
  anew := by
    rintro ⟨hbehind, hanew⟩
    rw [Turn.seen, hconnected] at hbehind
    rw [Turn.seen, hconnected] at hanew
    obtain ⟨gone, hgone⟩ := h.anew ⟨hbehind, hanew⟩
    refine ⟨gone, ?_⟩
    rw [hreceived, Turn.seen, hheld]
    exact hgone

/-- **ROW**: what is found was held at first or has come in since. -/
theorem found_of_kept (hkept : ∀ turn ∈ turns session asked, ledger.Kept turn)
    {later rest : List (Turn σ)} {wait : Turn σ}
    (h : turns session asked = later ++ wait :: rest) :
    ∃ gone, ledger.held session ++ (later ++ [wait]).flatMap ledger.received
      = gone ++ wait.call.given ++ ledger.held wait.behind := by
  induction later generalizing session asked with
  | nil =>
      cases asked with
      | nil => exact nomatch h
      | cons first more =>
          obtain ⟨rfl, -⟩ := List.cons.inj h
          obtain ⟨gone, hgone⟩ := (hkept _ List.mem_cons_self).balance
          rw [turn_before] at hgone
          refine ⟨gone, ?_⟩
          rw [List.nil_append, List.flatMap_singleton]
          exact hgone
  | cons turn later ih =>
      cases asked with
      | nil => exact nomatch h
      | cons first more =>
          obtain ⟨rfl, hrest⟩ := List.cons.inj h
          obtain ⟨lost, hlost⟩ := (hkept _ List.mem_cons_self).balance
          obtain ⟨gone, hgone⟩ :=
            ih (fun turn hturn => hkept turn (List.mem_cons_of_mem _ hturn)) hrest
          rw [turn_before] at hlost
          refine ⟨lost ++ (first.1.turn session first.2).call.given ++ gone, ?_⟩
          rw [List.cons_append, List.flatMap_cons, ← List.append_assoc, hlost, List.append_assoc,
            hgone]
          simp only [List.append_assoc]

/-- All turns of a row keep the account if a turn does so from a state that it leads to again. -/
theorem turns_kept {good : σ → Prop}
    (hstep : ∀ (request : Request) (session : σ) (files : Files), good session →
      ledger.Kept (request.turn session files) ∧ good (request.turn session files).behind)
    (hgood : good session) (asked : List (Request × Files)) :
    ∀ turn ∈ turns session asked, ledger.Kept turn := by
  induction asked generalizing session with
  | nil => exact List.forall_mem_nil _
  | cons first more ih =>
      obtain ⟨hkept, hbehind⟩ := hstep first.1 session first.2 hgood
      exact List.forall_mem_cons.mpr ⟨hkept, ih hbehind⟩

/-- If turns keep the account, a row of them keeps connections apart. -/
theorem Afresh.of_step {good : σ → Prop}
    (hstep : ∀ (request : Request) (session : σ) (files : Files), good session →
      ledger.Kept (request.turn session files) ∧ good (request.turn session files).behind)
    (hgood : good session) (hstart : Session.isConnected session = false → ledger.held session = [])
    (asked : List (Request × Files)) : ledger.Afresh session asked where
  start := hstart
  idle turn hturn := (turns_kept hstep hgood asked turn hturn).idle
  since := by
    intro earlier anew later wait rest found hrow hanew hfound
    have hkept := turns_kept hstep hgood asked
    obtain ⟨_, _, _, more, -, -, -, hlater⟩ := turns_split hrow
    -- the rest of the row begins with what the new connection holds
    have hsince : ∀ turn ∈ turns anew.behind more, ledger.Kept turn := by
      intro turn hturn
      refine hkept turn ?_
      rw [hrow, hlater]
      exact List.mem_append_right _ (List.mem_cons_of_mem _ hturn)
    obtain ⟨gone, hgone⟩ := found_of_kept hsince hlater.symm
    have hmem : anew ∈ turns session asked := by
      rw [hrow]
      exact List.mem_append_right _ List.mem_cons_self
    obtain ⟨lost, hlost⟩ := (hkept anew hmem).anew hanew
    refine ⟨lost ++ gone, ?_⟩
    rw [List.flatMap_cons, hlost, List.append_assoc, hgone, Call.given_of_found hfound]
    simp only [List.append_assoc]

end Ledger

end Session

/-! ## Replayed sessions -/

namespace Replay

/-- The account of a replayed session: replies come when a line is sent. -/
def ledger : Session.Ledger Replay where
  held replay := replay.buffer.unread
  received turn :=
    match turn.call with
    | .send line (.ok ()) => (turn.before.next? line).getD []
    | _ => []

/-- Each turn keeps it. -/
theorem turn_kept (request : Session.Request) (replay : Replay) (files : Files)
    (hidle : replay.connected = false → replay.buffer.unread = []) :
    ledger.Kept (request.turn replay files) := by
  cases request with
  | connect =>
      cases hconnected : replay.connected with
      | false => exact .of_nothing rfl (hidle hconnected)
      | true =>
          refine .of_steady (fun h => by cases h) (fun hbefore => ?_) (fun _ _ h => by cases h)
            ⟨[], List.append_nil _⟩
          exact nomatch hconnected.symm.trans hbefore
  | disconnect => exact .of_nothing rfl rfl
  | reconnect forced => exact .of_nothing rfl rfl
  | send line =>
      show ledger.Kept (.of replay files (.send line) (replay.send line files))
      cases hconnected : replay.connected with
      | false =>
          rw [send_unconnected hconnected]
          exact .of_nothing rfl (hidle hconnected)
      | true =>
          obtain ⟨replies, hsend⟩ := send_connected hconnected line files
          rw [hsend]
          refine .of_steady (fun hbehind => ?_) id (fun _ _ h => by cases h) ⟨[], rfl⟩
          exact nomatch hconnected.symm.trans hbehind
  | expect patterns limit =>
      show ledger.Kept (.of replay files (.expect patterns limit)
        (replay.expect patterns limit files))
      rcases replay.expect_cases patterns limit files with
        ⟨error, hfailed⟩ | ⟨found, behind, span, hconnected, htakes, hdone⟩
      · rw [hfailed]
        exact .of_steady hidle id (fun _ _ h => by cases h) ⟨[], List.append_nil _⟩
      · rw [hdone]
        refine .of_steady (fun hbehind => ?_) id (fun _ _ h => by cases h)
          ⟨[], (List.append_nil _).trans htakes.conserves.symm⟩
        exact nomatch hconnected.symm.trans hbehind

end Replay

/-! ## Client sessions -/

namespace Connection

variable {τ : Type}

/-- The text that has come over a connection and was not given out. -/
def held (connection : Connection τ) : Text :=
  connection.buffer.unread ++ connection.arrived.flatten

/-- The text that comes from the program while a session waits. The program is not listened to if
there is a match in what has arrived. -/
def comes [Transport τ] (patterns : List Pattern) (limit : Duration) (connection : Connection τ)
    (files : Files) : Text :=
  if Unfound patterns connection.buffer connection.arrived then
    ((connection.heard limit files).reads.map decodeLossy).flatten
  else []

end Connection

namespace Client

variable {τ : Type}

/-- The text that has come to a session and was not given out. -/
def held (client : Client τ) : Text := client.connection.elim [] Connection.held

/-- The session with a program that has been started. -/
def started (transport : τ) (client : Client τ) (files : Files) : Client τ :=
  { client with connection := some { transport, log := (client.openLog files).1 } }

/-- The session without its connection, and without its name if that is to be learned anew. -/
def reset (forced : Bool) (client : Client τ) : Client τ :=
  if forced then { client.dropped with hostname := none } else client.dropped

theorem isConnected_eq_false_iff {client : Client τ} :
    client.isConnected = false ↔ client.connection = none := by
  rw [isConnected, Bool.eq_false_iff, ne_eq, Option.not_isSome_iff_eq_none]

/-- Without a connection no text is held. -/
theorem held_of_none {client : Client τ} (h : client.connection = none) : client.held = [] := by
  rw [held, h]
  rfl

theorem learnName_connection (prompt : Text) (client : Client τ) :
    (client.learnName prompt).1.connection = client.connection := by
  rw [learnName]
  cases client.hostname with
  | some name => rfl
  | none => rfl

variable [Transport τ]

/-- The text that comes while the session waits. -/
def comesWaiting (patterns : List Pattern) (limit : Duration) (client : Client τ)
    (files : Files) : Text :=
  client.connection.elim [] fun connection => connection.comes patterns limit files

/-- The text that comes while the line is woken up. -/
def comesWaking (client : Client τ) (files : Files) : Text :=
  let sent := client.send "" files
  match sent.result with
  | .ok () => sent.next.comesWaiting [sent.next.prompt] sent.next.connectLimit sent.files
  | .error _ => []

/-- The text that comes while the session is connected. -/
def comesConnecting (client : Client τ) (files : Files) : Text :=
  if client.isConnected then []
  else
    match client.launch client.invocation files with
    | .error _ => []
    | .ok transport => (client.started transport files).comesWaking (client.openLog files).2

/-- The account of a client session: text comes when the program is listened to. -/
def ledger : Session.Ledger (Client τ) where
  held := held
  received turn :=
    match turn.call with
    | .connect _ => turn.before.comesConnecting turn.files
    | .reconnect forced _ => (turn.before.reset forced).comesConnecting turn.files
    | .expect patterns limit _ => turn.before.comesWaiting patterns limit turn.files
    | _ => []

variable {client : Client τ} {files : Files}

/-- Sending a line leaves the connection, and the text that has come over it. -/
theorem send_kept (line : String) (client : Client τ) (files : Files) :
    (client.send line files).next.held = client.held ∧
      (client.send line files).next.isConnected = client.isConnected := by
  cases hconnection : client.connection with
  | none =>
      simp only [send, hconnection]
      exact ⟨rfl, rfl⟩
  | some connection =>
      simp only [send, hconnection]
      split
      · rw [held, held, isConnected, isConnected, hconnection]
        exact ⟨rfl, rfl⟩
      · exact ⟨rfl, rfl⟩
      · exact ⟨rfl, rfl⟩

/-- Without a connection a wait finds at most the empty text, and changes nothing. -/
theorem expect_unconnected (h : client.connection = none) (patterns : List Pattern)
    (limit : Duration) (files : Files) :
    ∃ answer, client.expect patterns limit files = { result := answer, next := client, files } ∧
      (Call.expect patterns limit answer).given = [] := by
  rcases Buffer.find_cases {} patterns with ⟨hfind, -⟩ | ⟨found, behind, span, hfind, htakes⟩
  · refine ⟨.error .notConnected, ?_, rfl⟩
    rw [expect]
    simp only [h, hfind]
    rfl
  · refine ⟨.ok found, ?_, (List.append_eq_nil_iff.mp htakes.conserves).1⟩
    rw [expect]
    simp only [h, hfind]
    rfl

/-- **WAIT**: a wait gives out what was held or comes in, and holds the rest. -/
theorem expect_balance (patterns : List Pattern) (limit : Duration) (client : Client τ)
    (files : Files) :
    ∃ gone, client.held ++ client.comesWaiting patterns limit files
      = gone ++ (Call.expect patterns limit (client.expect patterns limit files).result).given ++
          (client.expect patterns limit files).next.held := by
  cases hconnection : client.connection with
  | none =>
      obtain ⟨answer, hexpect, hgiven⟩ := expect_unconnected hconnection patterns limit files
      rw [hexpect, hgiven, held, comesWaiting, hconnection]
      exact ⟨[], rfl⟩
  | some connection =>
      rw [held, comesWaiting, hconnection, Option.elim_some, Option.elim_some, Connection.held,
        Connection.comes]
      rcases unfound_or_firstFind patterns connection.buffer connection.arrived with
        hearly | ⟨needed, found, rest, hearly⟩
      · obtain ⟨early, hexpect⟩ := expect_heard hconnection hearly limit files
        rw [hexpect, if_pos hearly]
        rcases unfound_or_firstFind patterns (connection.listened limit files).buffer
          ((connection.heard limit files).reads.map decodeLossy) with
            hlate | ⟨needed, found, rest, hlate⟩
        · obtain ⟨more, htake⟩ := (connection.listened limit files).take_unfound_all
            (connection.heard limit files).files hlate early
          rw [htake, concluded]
          cases (connection.heard limit files).ended with
          | true => exact ⟨_, ((List.append_nil _).trans (List.append_nil _)).symm⟩
          | false => exact ⟨[], (List.append_nil _).symm⟩
        · obtain ⟨more, htake⟩ := (connection.listened limit files).take_firstFind
            (connection.heard limit files).files hlate early
          rw [htake, concluded]
          exact ⟨[], hlate.conserves.symm⟩
      · -- the program is not listened to
        obtain ⟨more, htake⟩ := connection.take_firstFind files hearly []
        rw [expect_arrived hconnection htake, if_neg hearly.not_unfound, ← hearly.conserves]
        exact ⟨[], List.append_nil _⟩

/-- Waking the line up ends with the wait for its prompt, or without a connection. -/
theorem wake_cases (client : Client τ) (files : Files) :
    let sent := client.send "" files
    let woken := sent.next.expect [sent.next.prompt] sent.next.connectLimit sent.files
    (client.wake files).next.connection = none ∨
      (sent.result = .ok () ∧ (client.wake files).result = .ok () ∧
        (client.wake files).next.connection = woken.next.connection) := by
  intro sent woken
  cases hsent : sent.result with
  | error e =>
      refine Or.inl ?_
      simp only [wake, Outcome.andThen, sent, hsent]
      rfl
  | ok _ =>
      cases hwoken : woken.result with
      | error e =>
          refine Or.inl ?_
          simp only [wake, Outcome.andThen, sent, hsent, woken, hwoken]
          rfl
      | ok found =>
          refine Or.inr ⟨rfl, ?_, ?_⟩
          · simp only [wake, Outcome.andThen, sent, hsent, woken, hwoken]
            rfl
          · simp only [wake, Outcome.andThen, sent, hsent, woken, hwoken]
            exact learnName_connection found.text _

/-- **WAKE**: what is held when the line has been woken up was held before or has come in. -/
theorem wake_balance (client : Client τ) (files : Files) :
    ∃ gone, client.held ++ client.comesWaking files = gone ++ (client.wake files).next.held := by
  rcases client.wake_cases files with hdropped | ⟨hsent, -, hwoken⟩
  · rw [held_of_none hdropped]
    exact ⟨_, (List.append_nil _).symm⟩
  · -- what the wait for the prompt has given out is gone
    have hbalance := expect_balance [(client.send "" files).next.prompt]
      (client.send "" files).next.connectLimit (client.send "" files).next
      (client.send "" files).files
    obtain ⟨gone, hgone⟩ := hbalance
    have hheld := congrArg (fun connection => connection.elim [] Connection.held) hwoken
    rw [(send_kept "" client files).1] at hgone
    rw [comesWaking, hsent]
    exact ⟨_, hgone.trans (congrArg _ hheld.symm)⟩

/-- A session that cannot be connected is left without a connection. -/
theorem connect_failed (client : Client τ) (files : Files) {error : SessionError}
    (h : (client.connect files).result = .error error) :
    (client.connect files).next.connection = none := by
  rw [connect] at h ⊢
  cases hconnected : client.isConnected with
  | true =>
      rw [hconnected, if_pos rfl] at h
      cases h
  | false =>
      rw [hconnected, if_neg Bool.false_ne_true] at h
      rw [if_neg Bool.false_ne_true]
      cases hlaunch : client.launch client.invocation files with
      | error e => exact isConnected_eq_false_iff.mp hconnected
      | ok transport =>
          rw [hlaunch] at h
          rcases wake_cases (client.started transport files) (client.openLog files).2 with
            hdropped | ⟨-, hwake, -⟩
          · exact hdropped
          · cases hwake.symm.trans h

/-- **CONNECT**: what is held by a session that was not connected has come in over its new
    connection. -/
theorem connect_balance (h : client.connection = none) (files : Files) :
    ∃ gone, client.comesConnecting files = gone ++ (client.connect files).next.held := by
  have hconnected := isConnected_eq_false_iff.mpr h
  rw [comesConnecting, connect, hconnected, if_neg Bool.false_ne_true, if_neg Bool.false_ne_true]
  cases client.launch client.invocation files with
  | error e =>
      refine ⟨[], ?_⟩
      exact (held_of_none h).symm
  | ok transport => exact wake_balance (client.started transport files) (client.openLog files).2

/-- Each turn keeps the account. -/
theorem turn_kept (request : Session.Request) (client : Client τ) (files : Files) :
    ledger.Kept (request.turn client files) := by
  have hidle (behind : Client τ) (h : behind.isConnected = false) : behind.held = [] :=
    held_of_none (isConnected_eq_false_iff.mp h)
  cases request with
  | connect =>
      show ledger.Kept (.of client files .connect (client.connect files))
      cases hconnected : client.isConnected with
      | false =>
          have hnone := isConnected_eq_false_iff.mp hconnected
          obtain ⟨gone, hgone⟩ := connect_balance hnone files
          refine ⟨hidle _, ⟨gone, ?_⟩, fun _ => ⟨gone, hgone⟩⟩
          rw [List.append_assoc]
          exact (congrArg (· ++ client.comesConnecting files) (held_of_none hnone)).trans hgone
      | true =>
          rw [connect, hconnected, if_pos rfl]
          refine .of_steady (hidle _) id (fun _ _ h => by cases h) ⟨[], ?_⟩
          have hcomes : client.comesConnecting files = [] := by
            rw [comesConnecting, hconnected, if_pos rfl]
          exact (congrArg (client.held ++ ·) hcomes).trans (List.append_nil _)
  | disconnect => exact .of_nothing rfl rfl
  | reconnect forced =>
      have hnone : (client.reset forced).connection = none := by
        cases forced with
        | false => rfl
        | true => rfl
      obtain ⟨gone, hgone⟩ := connect_balance hnone files
      refine ⟨hidle _, ⟨client.held ++ gone, ?_⟩, fun _ => ⟨gone, hgone⟩⟩
      show client.held ++ (client.reset forced).comesConnecting files
        = client.held ++ gone ++ [] ++ ((client.reset forced).connect files).next.held
      rw [hgone, List.append_nil, List.append_assoc]
  | send line =>
      obtain ⟨hheld, hconnected⟩ := send_kept line client files
      exact .of_steady (hidle _) hconnected.trans (fun _ _ h => by cases h)
        ⟨[], (List.append_nil _).trans hheld.symm⟩
  | expect patterns limit =>
      refine .of_steady (hidle _) (fun hbefore => ?_) (fun _ _ h => by cases h)
        (expect_balance patterns limit client files)
      obtain ⟨answer, hexpect, -⟩ :=
        expect_unconnected (isConnected_eq_false_iff.mp hbefore) patterns limit files
      exact (congrArg (fun outcome => outcome.next.isConnected) hexpect).trans hbefore

/-- A session is left without a connection by a turn that was to connect it and has failed. -/
theorem turn_failed (request : Session.Request) (client : Client τ) (files : Files)
    {error : SessionError}
    (h : (request.turn client files).call = .connect (.error error) ∨
      ∃ forced, (request.turn client files).call = .reconnect forced (.error error)) :
    (request.turn client files).behind.connection = none := by
  rcases h with hcall | ⟨forced, hcall⟩
  · obtain rfl : request = .connect := Session.request_eq hcall
    injection hcall with hresult
    exact client.connect_failed files hresult
  · obtain rfl : request = .reconnect forced := Session.request_eq hcall
    injection hcall with _ hresult
    exact (client.reset forced).connect_failed files hresult

end Client

/-! ## Piped sessions -/

namespace Piped

variable {τ : Type}

/-- The text that has come to a session and was not given out. -/
def held (piped : Piped τ) : Text := piped.buffer.unread ++ piped.arrived.flatten

theorem held_piped (client : Client τ) : client.piped.held = client.held := by
  obtain ⟨_, _, _, _, _, _, _ | connection⟩ := client
  · rfl
  · rfl

theorem isConnected_piped (client : Client τ) :
    client.piped.isConnected = client.isConnected := Option.isSome_map

theorem Coherent.held {piped : Piped τ} (h : piped.Coherent) (hidle : piped.isConnected = false) :
    piped.held = [] := by
  rw [Piped.held, (h.bare hidle).unread, arrived, (h.bare hidle).receiver]
  rfl

variable [Transport τ]

/-- The text that comes while the session waits: when nothing is found in what has arrived, all of
that is taken, and the receiver holds what the program has written. -/
def comesWaiting (patterns : List Pattern) (limit : Duration) (piped : Piped τ)
    (files : Files) : Text :=
  let early := piped.search patterns piped.arrived files []
  match early.found, early.piped.receiver with
  | none, some receiver => (early.piped.listen limit receiver early.files).1.arrived.flatten
  | _, _ => []

/-- The text that comes while the line is woken up. -/
def comesWaking (piped : Piped τ) (files : Files) : Text :=
  let sent := piped.send "" files
  match sent.result with
  | .ok () => sent.next.comesWaiting [sent.next.prompt] sent.next.connectLimit sent.files
  | .error _ => []

/-- The text that comes while the session is connected. -/
def comesConnecting (piped : Piped τ) (files : Files) : Text :=
  if piped.isConnected then []
  else
    match piped.start files with
    | .error _ => []
    | .ok (piped, files) => piped.comesWaking files

/-- The session when it has been disconnected, without its name if that is to be learned anew. -/
def reset (forced : Bool) (piped : Piped τ) (files : Files) : Piped τ :=
  let left := (piped.disconnect files).next
  if forced then { left with hostname := none } else left

/-- The account of a piped session: text comes when the program is listened to. -/
def ledger : Session.Ledger (Piped τ) where
  held := held
  received turn :=
    match turn.call with
    | .connect _ => turn.before.comesConnecting turn.files
    | .reconnect forced _ => (turn.before.reset forced turn.files).comesConnecting turn.files
    | .expect patterns limit _ => turn.before.comesWaiting patterns limit turn.files
    | _ => []

/-- **COMES**: the same comes to a session whose connection is in one place. -/
theorem comesWaiting_piped (patterns : List Pattern) (limit : Duration) (client : Client τ)
    (files : Files) :
    client.piped.comesWaiting patterns limit files = client.comesWaiting patterns limit files := by
  cases hconnection : client.connection with
  | none =>
      have harrived : client.dropped.piped.arrived = [] := rfl
      rw [← Client.dropped_of_none hconnection, comesWaiting, harrived, search_dropped]
      rcases hfind : ({} : Buffer).find patterns with ⟨_ | found, behind⟩
      · rfl
      · rfl
  | some connection =>
      have harrived : (client.linked connection).piped.arrived = connection.arrived := rfl
      rw [← Client.linked_of_some hconnection, comesWaiting, harrived, search_linked]
      show _ = connection.comes patterns limit files
      rcases unfound_or_firstFind patterns connection.buffer connection.arrived with
        hnone | ⟨needed, found, rest, hfirst⟩
      · obtain ⟨more, htake⟩ := connection.take_unfound_all files hnone []
        rw [htake, Connection.comes, if_pos hnone]
        -- the receiver is empty, and holds what is heard
        clear hnone htake harrived hconnection
        obtain ⟨transport, arrived, ended, buffer, log⟩ := connection
        cases ended with
        | true => rfl
        | false => rfl
      · obtain ⟨more, htake⟩ := connection.take_firstFind files hfirst []
        rw [htake, Connection.comes, if_neg hfirst.not_unfound]

theorem comesWaking_piped (client : Client τ) (files : Files) :
    client.piped.comesWaking files = client.comesWaking files := by
  rw [comesWaking, Client.comesWaking, send_piped]
  simp only [Outcome.seen]
  cases (client.send "" files).result with
  | ok _ => exact comesWaiting_piped _ _ _ _
  | error e => rfl

theorem comesConnecting_piped (client : Client τ) (files : Files) :
    client.piped.comesConnecting files = client.comesConnecting files := by
  cases hconnection : client.connection with
  | some connection =>
      rw [← Client.linked_of_some hconnection]
      rfl
  | none =>
      have hlaunch : client.dropped.launch client.dropped.invocation files
          = client.launch client.invocation files := rfl
      rw [← Client.dropped_of_none hconnection, comesConnecting, Client.comesConnecting,
        start_dropped, hlaunch]
      cases client.launch client.invocation files with
      | error e => rfl
      | ok transport => exact comesWaking_piped (client.started transport files) _

theorem reset_piped (forced : Bool) (client : Client τ) (files : Files) :
    client.piped.reset forced files = (client.reset forced).piped := by
  rw [reset, disconnect_piped]
  cases forced with
  | false => rfl
  | true => rfl

/-- So the account of the one is that of the other. -/
theorem received_piped (request : Session.Request) (client : Client τ) (files : Files) :
    ledger.received (request.turn client.piped files)
      = Client.ledger.received (request.turn client files) := by
  rw [turn_piped]
  cases request with
  | connect => exact comesConnecting_piped client files
  | disconnect => rfl
  | reconnect forced =>
      show (client.piped.reset forced files).comesConnecting files = _
      rw [reset_piped]
      exact comesConnecting_piped (client.reset forced) files
  | send line => rfl
  | expect patterns limit => exact comesWaiting_piped patterns limit client files

variable {piped : Piped τ}

/-- Each turn keeps the account. -/
theorem Coherent.turn_kept (h : piped.Coherent) (request : Session.Request) (files : Files) :
    ledger.Kept (request.turn piped files) := by
  have hreceived := received_piped request piped.client files
  rw [← h.piped_client, turn_piped]
  rw [turn_piped] at hreceived
  exact .of_seen isConnected_piped held_piped hreceived (piped.client.turn_kept request files)

/-- A session that is connected in vain has no connection. -/
theorem Coherent.turn_failed (h : piped.Coherent) (request : Session.Request) (files : Files)
    {error : SessionError}
    (hcall : (request.turn piped files).call = .connect (.error error) ∨
      ∃ forced, (request.turn piped files).call = .reconnect forced (.error error)) :
    (request.turn piped files).behind.isConnected = false := by
  rw [← h.piped_client, turn_piped] at hcall ⊢
  exact (isConnected_piped _).trans
    (Client.isConnected_eq_false_iff.mpr (Client.turn_failed request piped.client files hcall))

/-- A session that has nothing of a connection: it neither sends nor receives. -/
structure Severed (piped : Piped τ) : Prop extends piped.Bare where
  send : ∀ line files, piped.send line files = .failed .notConnected piped files
  expect : ∀ patterns limit files, ∃ answer,
    piped.expect patterns limit files = { result := answer, next := piped, files } ∧
      (Call.expect patterns limit answer).given = []

theorem Coherent.severed (h : piped.Coherent) (hidle : piped.isConnected = false) :
    piped.Severed where
  toBare := h.bare hidle
  send line files := by
    rw [Piped.send, (h.bare hidle).stdin]
    rfl
  expect patterns limit files := by
    have hconnection : piped.client.connection = none := by
      rw [client, (h.bare hidle).child]
      rfl
    obtain ⟨answer, hexpect, hgiven⟩ :=
      Client.expect_unconnected hconnection patterns limit files
    refine ⟨answer, ?_, hgiven⟩
    have hseen := expect_piped patterns limit piped.client files
    rw [hexpect, h.piped_client] at hseen
    rw [hseen, Outcome.seen, h.piped_client]

end Piped

/-- **AFRESH**: whatever a session is asked, and whatever comes of it, no text is held without a
    connection, and what is found has been received since the session was connected anew.  A piped
    session without a connection holds no end of one, and it has none when it could not be
    connected. -/
theorem nothing_carried_over :
    (∀ (hostname : String) (prompt : Pattern) (connected : Bool) (script : List Replay.Entry)
      (asked : List (Session.Request × Files)),
      Replay.ledger.Afresh (Replay.ofScript hostname prompt connected script) asked) ∧
    ∀ (τ : Type) [Transport τ],
      (∀ invocation launch prompt connectLimit logPath hostname,
        Piped.Coherent
          ({ invocation, launch, prompt, connectLimit, logPath, hostname } : Piped τ)) ∧
      ∀ (piped : Piped τ), piped.Coherent → ∀ asked : List (Session.Request × Files),
        Piped.ledger.Afresh piped asked ∧
          ∀ turn ∈ Session.turns piped asked,
            turn.behind.Coherent ∧
            (turn.behind.isConnected = false → turn.behind.Severed) ∧
            ∀ error, (turn.call = .connect (.error error) ∨
                ∃ forced, turn.call = .reconnect forced (.error error)) →
              turn.behind.isConnected = false := by
  refine ⟨?_, ?_⟩
  · intro hostname prompt connected script asked
    have hstart : (Replay.ofScript hostname prompt connected script).connected = false →
        (Replay.ofScript hostname prompt connected script).buffer.unread = [] := by
      intro _
      obtain ⟨replies, hscript⟩ := Replay.ofScript_eq hostname prompt connected script
      rw [hscript]
    exact .of_step (fun request replay files hidle =>
      ⟨replay.turn_kept request files hidle, (replay.turn_kept request files hidle).idle⟩)
      hstart hstart asked
  · intro τ _
    refine ⟨fun _ _ _ _ _ _ => Piped.Bare.coherent ⟨rfl, rfl, rfl, rfl, rfl⟩, ?_⟩
    intro piped hcoherent asked
    refine ⟨.of_step (fun request piped files h =>
      ⟨h.turn_kept request files, h.turn request files⟩) hcoherent hcoherent.held asked, ?_⟩
    intro turn hturn
    obtain ⟨front, request, files, rest, -, rfl⟩ := Session.turn_of_mem hturn
    have hfront := hcoherent.after front
    have hbehind := hfront.turn request files
    exact ⟨hbehind, hbehind.severed, fun error hcall => hfront.turn_failed request files hcall⟩

/-- A device is reached again while something from before is unread, and what is found then comes
    from the program that has been started again.  When that has ended nothing of it is left. -/
theorem Parting.found_anew :
    let closed : Session.Request := .expect [.ofText "closed"] (.ofSecs 5)
    let anew := Session.Request.turn (.reconnect true) client.piped files
    let wait := closed.turn anew.behind files
    let last := closed.turn wait.behind files
    client.piped.Coherent ∧ client.piped.buffer.unread = "copying ".toList ∧ anew.Anew ∧
      wait.call.found? = some ⟨0, "\r\n".toList, "closed".toList⟩ ∧
      (∃ gone, [anew, wait].flatMap Piped.ledger.received
        = gone ++ ("\r\n".toList ++ "closed".toList) ++ wait.behind.held) ∧
      wait.behind.isConnected = true ∧ last.behind.Severed := by
  intro closed anew wait last
  have hcoherent : client.piped.Coherent := Piped.coherent_piped client
  have hanew : anew.Anew := ⟨by decide +kernel, Or.inr ⟨true, _, rfl⟩⟩
  have hfound : wait.call.found? = some ⟨0, "\r\n".toList, "closed".toList⟩ := by decide +kernel
  obtain ⟨hafresh, hbehind⟩ := (nothing_carried_over.2 Parting).2 client.piped hcoherent
    [(.reconnect true, files), (closed, files), (closed, files)]
  have hlast : last ∈ [anew, wait, last] := List.mem_of_mem_getLast? rfl
  obtain ⟨-, hsevered, -⟩ := hbehind last hlast
  have hgone : last.behind.isConnected = false := by decide +kernel
  exact ⟨hcoherent, rfl, hanew, hfound, hafresh.since [] anew [] wait [last] _ rfl hanew hfound,
    by decide +kernel, hsevered hgone⟩

end Upkeep
