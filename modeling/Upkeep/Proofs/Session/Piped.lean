import Upkeep.Proofs.Session.Channel
import Upkeep.Proofs.Session.Turns
import Upkeep.Session.Piped

/-! # Piped sessions — the ends of a connection are held and let go together

    A piped session holds every end of its connection by itself, and could hold
    some of them without the others.  It never does (`Coherent`): with the program
    it holds its input and its receiver, and without the program it is `Bare`, with
    no input, no receiver, no session log and no text.  Each operation keeps to
    this, whatever comes of it (`Coherent.turn`).

    So a piped session is a client session whose connection is held by ends
    (`Client.piped`, `Piped.client`).  What is asked of the one is asked of the
    other, call by call and over whole rows of calls (`turn_piped`,
    `Coherent.turns_client`). -/

namespace Upkeep

namespace Outcome

variable {σ ρ α β : Type}

/-- The outcome with its session seen in another way. -/
def seen (f : σ → ρ) (outcome : Outcome σ α) : Outcome ρ α :=
  { outcome with next := f outcome.next }

/-- If a second call is the same in both ways, so are both calls. -/
theorem andThen_seen (f : σ → ρ) {first : Outcome σ α}
    {next : Except SessionError α → σ → Files → Outcome σ β}
    {next' : Except SessionError α → ρ → Files → Outcome ρ β}
    (h : ∀ result session files,
      next' result (f session) files = (next result session files).seen f) :
    (first.seen f).andThen next' = (first.andThen next).seen f := by
  have hnext : next' (first.seen f).result (first.seen f).next (first.seen f).files
      = (next first.result first.next first.files).seen f := h _ _ _
  rw [andThen, hnext]
  rfl

end Outcome

/-! ## Takes -/

namespace Connection

variable {τ : Type} {connection : Connection τ} {patterns : List Pattern} {chunks : List Text}
  {files : Files} {records : List Record}

/-- When nothing is found all chunks have been taken, there is nothing to be found, and the stream
is as it was. -/
theorem take_none (h : (connection.take patterns chunks files records).found = none) :
    let taken := (connection.take patterns chunks files records).connection
    taken.arrived = [] ∧ (taken.buffer.find patterns).1 = none ∧
      taken.ended = connection.ended := by
  induction chunks generalizing connection files records with
  | nil =>
      rcases hfind : connection.buffer.find patterns with ⟨_ | found, behind⟩
      · rw [take_nil hfind]
        exact ⟨rfl, congrArg Prod.fst hfind, rfl⟩
      · rw [take_found hfind] at h
        exact nomatch h
  | cons chunk rest ih =>
      rcases hfind : connection.buffer.find patterns with ⟨_ | found, behind⟩
      · rw [take_cons hfind] at h ⊢
        obtain ⟨harrived, hnothing, hended⟩ := ih h
        refine ⟨harrived, hnothing, hended.trans ?_⟩
        obtain ⟨written, hreceive⟩ := receive_eq chunk connection files
        rw [hreceive]
      · rw [take_found hfind] at h
        exact nomatch h

theorem receive_withArrived (chunk : Text) (arrived : List Text) :
    { connection with arrived }.receive chunk files
      = ({ (connection.receive chunk files).1 with arrived },
          (connection.receive chunk files).2) := by
  obtain ⟨transport, _, ended, buffer, _ | path⟩ := connection
  · rfl
  · simp only [receive]
    cases files.append path (encodeUtf8 chunk) with
    | ok written => rfl
    | error e => rfl

/-- What had arrived before makes no difference to what is taken. -/
theorem take_withArrived (arrived : List Text) :
    { connection with arrived }.take patterns chunks files records
      = connection.take patterns chunks files records := by
  have hfinds : { connection with arrived }.buffer.find patterns
      = connection.buffer.find patterns := rfl
  induction chunks generalizing connection files records with
  | nil =>
      rcases hfind : connection.buffer.find patterns with ⟨_ | found, behind⟩
      · rw [take_nil hfind, take_nil (hfinds.trans hfind)]
      · rw [take_found hfind, take_found (hfinds.trans hfind)]
  | cons chunk rest ih =>
      rcases hfind : connection.buffer.find patterns with ⟨_ | found, behind⟩
      · rw [take_cons hfind, take_cons (hfinds.trans hfind), receive_withArrived]
        exact ih rfl
      · rw [take_found hfind, take_found (hfinds.trans hfind)]

end Connection

/-- The turn with its sessions seen in another way. -/
def Session.Turn.seen {σ ρ : Type} (f : σ → ρ) (turn : Session.Turn σ) : Session.Turn ρ :=
  ⟨f turn.before, turn.files, turn.call, f turn.behind, turn.left⟩

/-- The session linked to a connection. -/
def Client.linked {τ : Type} (connection : Connection τ) (client : Client τ) : Client τ :=
  { client with connection := some connection }

theorem Client.linked_of_some {τ : Type} {client : Client τ} {connection : Connection τ}
    (h : client.connection = some connection) : client.linked connection = client := by
  rw [linked, ← h]

theorem Client.dropped_of_none {τ : Type} {client : Client τ} (h : client.connection = none) :
    client.dropped = client := by
  rw [dropped, ← h]

/-- A client session whose connection is held by ends. -/
def Client.piped {τ : Type} (client : Client τ) : Piped τ where
  invocation := client.invocation
  launch := client.launch
  prompt := client.prompt
  connectLimit := client.connectLimit
  logPath := client.logPath
  hostname := client.hostname
  child := client.connection.map Connection.transport
  stdin := client.connection.isSome
  receiver := client.connection.map fun connection => ⟨connection.arrived, connection.ended⟩
  log := client.connection.bind Connection.log
  buffer := client.connection.elim {} Connection.buffer

namespace Piped

variable {τ : Type}

/-- A piped session with its connection in one place. -/
def client (piped : Piped τ) : Client τ where
  invocation := piped.invocation
  launch := piped.launch
  prompt := piped.prompt
  connectLimit := piped.connectLimit
  logPath := piped.logPath
  hostname := piped.hostname
  connection := piped.child.map fun transport =>
    { transport
      arrived := piped.arrived
      ended := piped.ended
      buffer := piped.buffer
      log := piped.log }

/-- Nothing that belongs to a connection is held. -/
structure Bare (piped : Piped τ) : Prop where
  child : piped.child = none
  stdin : piped.stdin = false
  receiver : piped.receiver = none
  log : piped.log = none
  unread : piped.buffer.unread = []

/-- The ends of a connection are held together or not at all. -/
structure Coherent (piped : Piped τ) : Prop where
  bare : piped.isConnected = false → piped.Bare
  stdin : piped.isConnected = true → piped.stdin = true
  receiver : piped.isConnected = true → piped.receiver.isSome = true

theorem client_piped (client : Client τ) : client.piped.client = client := by
  obtain ⟨_, _, _, _, _, _, _ | connection⟩ := client
  · rfl
  · rfl

theorem Bare.isConnected {piped : Piped τ} (h : piped.Bare) : piped.isConnected = false := by
  rw [Piped.isConnected, h.child]
  rfl

theorem Bare.coherent {piped : Piped τ} (h : piped.Bare) : piped.Coherent where
  bare _ := h
  stdin hconnected := absurd (h.isConnected.symm.trans hconnected) Bool.false_ne_true
  receiver hconnected := absurd (h.isConnected.symm.trans hconnected) Bool.false_ne_true

theorem coherent_piped (client : Client τ) : client.piped.Coherent := by
  obtain ⟨_, _, _, _, _, _, _ | connection⟩ := client
  · exact Bare.coherent ⟨rfl, rfl, rfl, rfl, rfl⟩
  · refine ⟨fun hidle => ?_, fun _ => rfl, fun _ => rfl⟩
    exact absurd hidle.symm Bool.false_ne_true

/-- A coherent session has its connection in one place as well. -/
theorem Coherent.piped_client {piped : Piped τ} (h : piped.Coherent) :
    piped.client.piped = piped := by
  obtain ⟨_, _, _, _, _, _, child, stdin, receiver, log, buffer⟩ := piped
  cases child with
  | none =>
      obtain ⟨-, hstdin, hreceiver, hlog, hunread⟩ := h.bare rfl
      obtain rfl : stdin = false := hstdin
      obtain rfl : receiver = none := hreceiver
      obtain rfl : log = none := hlog
      obtain rfl : buffer = {} := congrArg Buffer.mk hunread
      rfl
  | some program =>
      obtain rfl : stdin = true := h.stdin rfl
      obtain ⟨receiver, rfl⟩ := Option.isSome_iff_exists.mp (h.receiver rfl)
      rfl

/-! ## Looking for a match -/

/-- A chunk goes to the log and to the buffer of both. -/
theorem record_linked (client : Client τ) (connection : Connection τ) (chunk : Text)
    (files : Files) :
    let recorded := (client.linked connection).piped.record chunk files
    let received := connection.receive chunk files
    { recorded.1 with buffer := recorded.1.buffer.push chunk } = (client.linked received.1).piped ∧
      recorded.2 = received.2 := by
  intro recorded received
  obtain ⟨transport, arrived, ended, buffer, _ | path⟩ := connection
  · exact ⟨rfl, rfl⟩
  · simp only [recorded, received, record, Connection.receive, Client.linked, Client.piped,
      Option.bind_some]
    cases files.append path (encodeUtf8 chunk) with
    | ok written => exact ⟨rfl, rfl⟩
    | error e => exact ⟨rfl, rfl⟩

/-- Both find the same, and take the same chunks for it. -/
theorem search_linked (patterns : List Pattern) (chunks : List Text) (client : Client τ)
    (connection : Connection τ) (files : Files) (records : List Record) :
    (client.linked connection).piped.search patterns chunks files records
      = let taken := connection.take patterns chunks files records
        ⟨taken.found, (client.linked taken.connection).piped, taken.files, taken.records⟩ := by
  have hbuffer : (client.linked connection).piped.buffer = connection.buffer := rfl
  induction chunks generalizing connection files records with
  | nil =>
      rcases hfind : connection.buffer.find patterns with ⟨_ | found, behind⟩
      · rw [search_nil hfind, Connection.take_nil hfind]
        rfl
      · rw [search_found hfind, Connection.take_found hfind]
        rfl
  | cons chunk rest ih =>
      rcases hfind : connection.buffer.find patterns with ⟨_ | found, behind⟩
      · obtain ⟨hpiped, hrest⟩ := record_linked client connection chunk files
        rw [search_cons hfind, Connection.take_cons hfind, hpiped, hrest]
        exact ih _ _ _ rfl
      · rw [search_found hfind, Connection.take_found hfind]
        rfl

/-! ## What is done to both -/

/-- Without a connection only the empty text can be found, and nothing is taken for it. -/
theorem search_dropped (patterns : List Pattern) (client : Client τ) (files : Files) :
    client.dropped.piped.search patterns [] files []
      = ⟨(({} : Buffer).find patterns).1, client.dropped.piped, files, []⟩ := by
  rcases Buffer.find_cases {} patterns with ⟨hfind, -⟩ | ⟨found, behind, span, hfind, htakes⟩
  · rw [hfind]
    exact search_nil hfind []
  · obtain ⟨-, hbehind⟩ := List.append_eq_nil_iff.mp htakes.conserves
    obtain rfl : behind = {} := congrArg Buffer.mk hbehind
    rw [hfind]
    exact search_found hfind [] []

theorem learnName_piped (prompt : Text) (client : Client τ) :
    client.piped.learnName prompt
      = ((client.learnName prompt).1.piped, (client.learnName prompt).2) := by
  obtain ⟨_, _, _, _, _, _ | name, _⟩ := client
  · rfl
  · rfl

theorem start_dropped (client : Client τ) (files : Files) :
    client.dropped.piped.start files
      = (client.launch client.invocation files).map fun transport =>
          ((client.linked { transport, log := (client.openLog files).1 }).piped,
            (client.openLog files).2) := by
  obtain ⟨invocation, launch, prompt, connectLimit, logPath, hostname, connection⟩ := client
  simp only [start, Client.openLog, Client.dropped, Client.piped, Client.linked]
  cases launch invocation files with
  | error e => rfl
  | ok transport =>
      cases logPath with
      | none => rfl
      | some path =>
          dsimp only
          cases files.append path [] with
          | ok written => rfl
          | error e => rfl

variable [Transport τ]

/-- Of what is held, writing changes only the program. -/
theorem write_eq_ok {bytes : Bytes} {piped written : Piped τ}
    (h : piped.write bytes = .ok written) :
    ∃ program, written = { piped with child := some program } := by
  rw [write] at h
  cases hchild : piped.child with
  | none =>
      rw [hchild] at h
      exact nomatch h
  | some program =>
      simp only [hchild] at h
      cases hwrite : Transport.write bytes program with
      | error e =>
          rw [hwrite] at h
          exact nomatch h
      | ok program =>
          rw [hwrite] at h
          exact ⟨program, (Except.ok.inj h).symm⟩

/-- Letting the input go does, too. -/
theorem leave_eq (piped : Piped τ) :
    ∃ child, piped.leave = { piped with child, stdin := false } := by
  rw [leave]
  split
  · cases hwrite : piped.write (encodeUtf8 "exit\n".toList) with
    | error e => exact ⟨piped.child, rfl⟩
    | ok written =>
        obtain ⟨program, rfl⟩ := write_eq_ok hwrite
        exact ⟨some program, rfl⟩
  · next hstdin =>
    rw [← eq_false_of_ne_true hstdin]
    exact ⟨piped.child, rfl⟩

/-- **DISCONNECT**: every end is let go, whichever were held. -/
theorem disconnect_eq (piped : Piped τ) (files : Files) :
    piped.disconnect files
      = .done ()
          { piped with child := none, stdin := false, receiver := none, log := none, buffer := {} }
          files := by
  obtain ⟨child, hleave⟩ := piped.leave_eq
  rw [disconnect, hleave]

theorem disconnect_piped (client : Client τ) (files : Files) :
    client.piped.disconnect files = (client.disconnect files).seen Client.piped := by
  rw [disconnect_eq]
  rfl

theorem send_piped (line : String) (client : Client τ) (files : Files) :
    client.piped.send line files = (client.send line files).seen Client.piped := by
  obtain ⟨_, _, _, _, _, _, _ | connection⟩ := client
  · rfl
  · simp only [send, Client.send, Client.piped, write, Option.map_some, Option.isSome_some, if_true]
    cases Transport.write (encodeUtf8 (line.toList ++ ['\n'])) connection.transport with
    | ok program => rfl
    | error e =>
        cases e with
        | brokenPipe => rfl
        | _ => rfl

theorem listen_linked (limit : Duration) (client : Client τ) (connection : Connection τ)
    (files : Files) :
    listen limit ⟨connection.arrived, connection.ended⟩ (client.linked connection).piped files
      = if connection.ended then ((client.linked connection).piped, files)
        else
          let heard := Transport.listen limit connection.transport files
          ((client.linked { connection with
              transport := heard.next
              arrived := connection.arrived ++ heard.reads.map decodeLossy
              ended := heard.ended }).piped,
            heard.files) := rfl

theorem conclude_linked (limit : Duration) (client : Client τ) (taken : Connection.Taken τ)
    {ended : Bool} (h : taken.found = none → taken.connection.ended = ended) :
    conclude limit ⟨taken.found, (client.linked taken.connection).piped, taken.files, taken.records⟩
      = (client.concluded limit ended taken).seen Client.piped := by
  obtain ⟨_ | found, last, left, records⟩ := taken
  · obtain rfl : last.ended = ended := h rfl
    have hended : (client.linked last).piped.ended = last.ended := rfl
    simp only [conclude, Client.concluded, hended, disconnect_piped]
    cases last.ended with
    | true => rfl
    | false => rfl
  · rfl

/-- **WAIT**: over a connection both wait for the same, and find and lose the same. -/
theorem expect_linked (patterns : List Pattern) (limit : Duration) (client : Client τ)
    (connection : Connection τ) (files : Files) :
    (client.linked connection).piped.expect patterns limit files
      = ((client.linked connection).expect patterns limit files).seen Client.piped := by
  have harrived : (client.linked connection).piped.arrived = connection.arrived := rfl
  rw [expect, harrived]
  rcases htake : connection.take patterns connection.arrived files [] with
    ⟨_ | found, early, left, records⟩
  · -- all that has arrived was taken, and the program is listened to unless it has ended
    have hunfound := Connection.take_none (congrArg Connection.Taken.found htake)
    simp only [htake] at hunfound
    obtain ⟨hnothing, hfind, hended⟩ := hunfound
    have hreceiver : (client.linked early).piped.receiver = some ⟨early.arrived, early.ended⟩ := rfl
    simp only [search_linked, htake, hreceiver, listen_linked]
    cases hend : connection.ended with
    | true =>
        have hlate : early.take patterns [] left records = _ :=
          Connection.take_nil (Prod.ext hfind rfl) records
        have hagain : (client.linked early).piped.arrived = [] := hnothing
        rw [hended.trans hend, if_pos rfl, hagain, search_linked, hlate]
        refine (conclude_linked limit client ⟨none, { early with arrived := [] }, left, records⟩
          fun _ => hended.trans hend).trans ?_
        simp only [Client.expect, Client.linked, htake, hend, if_true]
        rfl
    | false =>
        rw [hended.trans hend, if_neg Bool.false_ne_true]
        let heard := Transport.listen limit early.transport left
        let reads := heard.reads.map decodeLossy
        let later := { early with transport := heard.next, ended := heard.ended }
        have hreads : early.arrived ++ reads = reads := by
          rw [hnothing, List.nil_append]
        show conclude limit (search patterns (early.arrived ++ reads)
          (client.linked { later with arrived := early.arrived ++ reads }).piped heard.files
            records) = _
        rw [hreads, search_linked, Connection.take_withArrived]
        refine (conclude_linked limit client (later.take patterns reads heard.files records)
          fun hnone => (Connection.take_none hnone).2.2).trans ?_
        simp only [Client.expect, Client.linked, htake, hend, Bool.false_eq_true, if_false]
        rfl
  · rw [Client.expect_arrived rfl htake]
    simp only [search_linked, htake]
    rfl

theorem expect_piped (patterns : List Pattern) (limit : Duration) (client : Client τ)
    (files : Files) :
    client.piped.expect patterns limit files
      = (client.expect patterns limit files).seen Client.piped := by
  cases hconnection : client.connection with
  | some connection =>
      rw [← Client.linked_of_some hconnection]
      exact expect_linked patterns limit client connection files
  | none =>
      have harrived : client.dropped.piped.arrived = [] := rfl
      rw [← Client.dropped_of_none hconnection, expect, harrived, search_dropped]
      rcases hfind : ({} : Buffer).find patterns with ⟨_ | found, behind⟩
      · simp only [Client.expect, Client.dropped, hfind]
        rfl
      · simp only [Client.expect, Client.dropped, hfind]
        rfl

theorem wake_piped (client : Client τ) (files : Files) :
    client.piped.wake files = (client.wake files).seen Client.piped := by
  rw [wake, send_piped]
  refine (congrArg (fun prompted => Outcome.andThen prompted _)
    (Outcome.andThen_seen Client.piped ?_)).trans (Outcome.andThen_seen Client.piped ?_)
  · intro result client files
    cases result with
    | ok _ => exact expect_piped [client.prompt] client.connectLimit client files
    | error e => rfl
  · intro result client files
    cases result with
    | ok found =>
        simp only [learnName_piped]
        rfl
    | error e =>
        rw [disconnect_piped]
        rfl

theorem connect_piped (client : Client τ) (files : Files) :
    client.piped.connect files = (client.connect files).seen Client.piped := by
  cases hconnection : client.connection with
  | some connection =>
      rw [← Client.linked_of_some hconnection]
      rfl
  | none =>
      have hlaunch : client.dropped.launch client.dropped.invocation files
          = client.launch client.invocation files := rfl
      rw [← Client.dropped_of_none hconnection, connect, Client.connect, start_dropped, hlaunch]
      cases client.launch client.invocation files with
      | error e => rfl
      | ok transport =>
          exact congrArg (Outcome.recorded _)
            (wake_piped (client.linked { transport, log := (client.openLog files).1 }) _)

theorem reconnect_piped (forced : Bool) (client : Client τ) (files : Files) :
    client.piped.reconnect forced files = (client.reconnect forced files).seen Client.piped := by
  rw [reconnect, disconnect_piped]
  refine Outcome.andThen_seen Client.piped fun result client files => ?_
  cases forced with
  | false => exact connect_piped client files
  | true => exact connect_piped { client with hostname := none } files

/-! ## Turns -/

/-- **TURN**: what is asked of the one is asked of the other. -/
theorem turn_piped (request : Session.Request) (client : Client τ) (files : Files) :
    request.turn client.piped files = (request.turn client files).seen Client.piped := by
  cases request with
  | connect =>
      exact congrArg (Session.Turn.of client.piped files .connect) (connect_piped client files)
  | disconnect =>
      exact congrArg (Session.Turn.of client.piped files .disconnect)
        (disconnect_piped client files)
  | reconnect forced =>
      exact congrArg (Session.Turn.of client.piped files (.reconnect forced))
        (reconnect_piped forced client files)
  | send line =>
      exact congrArg (Session.Turn.of client.piped files (.send line))
        (send_piped line client files)
  | expect patterns limit =>
      exact congrArg (Session.Turn.of client.piped files (.expect patterns limit))
        (expect_piped patterns limit client files)

/-- So the ends of a connection stay together. -/
theorem Coherent.turn {piped : Piped τ} (h : piped.Coherent) (request : Session.Request)
    (files : Files) : (request.turn piped files).behind.Coherent := by
  rw [← h.piped_client, turn_piped]
  exact coherent_piped _

theorem Coherent.after {piped : Piped τ} (h : piped.Coherent)
    (asked : List (Session.Request × Files)) : (Session.after piped asked).Coherent := by
  induction asked generalizing piped with
  | nil => exact h
  | cons first rest ih => exact ih (h.turn first.1 first.2)

theorem Coherent.turn_client {piped : Piped τ} (h : piped.Coherent) (request : Session.Request)
    (files : Files) :
    (request.turn piped files).seen client = request.turn piped.client files := by
  have hturn := turn_piped request piped.client files
  rw [h.piped_client] at hturn
  rw [hturn, Session.Turn.seen, Session.Turn.seen]
  simp only [client_piped]

/-- **TURNS**: a row of requests makes the same row of turns of both, with the same calls. -/
theorem Coherent.turns_client {piped : Piped τ} (h : piped.Coherent)
    (asked : List (Session.Request × Files)) :
    (Session.turns piped asked).map (Session.Turn.seen client)
      = Session.turns piped.client asked := by
  induction asked generalizing piped with
  | nil => rfl
  | cons first rest ih =>
      obtain ⟨request, files⟩ := first
      have hturn := h.turn_client request files
      have hbehind : (request.turn piped files).behind.client
          = (request.turn piped.client files).behind := congrArg Session.Turn.behind hturn
      have hrest := ih (h.turn request files)
      rw [hbehind] at hrest
      exact congrArg₂ List.cons hturn hrest

end Piped

end Upkeep
