import Upkeep.Session.Transport
import Upkeep.Text.Blank

/-!
# Client sessions — a device behind a client program

A client session starts the client program when it connects and wakes the line up with an empty
line; the prompt that comes back tells the device's name. All that belongs to a connection is in
`Connection` — the program, what has arrived, the text not read yet, the session log — so nothing
of it is left when the session is disconnected.

The sessions of the program are `Piped`: they hold each of these by itself. A client session does
the same as a piped one, whatever it is asked (`Piped.turn_piped`, `Piped.Coherent.turns_client`).

`Connection.take` reads what has arrived one chunk at a time: it looks for a match before every
chunk, and a chunk goes to the session log and to the buffer together.
-/

namespace Upkeep

/-- A client program that has been started, with what has come from it. -/
structure Connection (τ : Type) where
  transport : τ
  /-- Chunks that have arrived and were not taken. -/
  arrived : List Text := []
  /-- Whether nothing will arrive behind them. -/
  ended : Bool := false
  buffer : Buffer := {}
  /-- The session log, as long as it can be written. -/
  log : Option String := none

namespace Connection

variable {τ : Type}

/-- Takes a chunk to the session log and to the buffer. A log that cannot be written is given up. -/
def receive (chunk : Text) (connection : Connection τ) (files : Files) :
    Connection τ × Files × List Record :=
  let connection := { connection with buffer := connection.buffer.push chunk }
  match connection.log with
  | none => (connection, files, [])
  | some path =>
    match files.append path (encodeUtf8 chunk) with
    | .ok files => (connection, files, [])
    | .error e =>
      ({ connection with log := none }, files,
        [⟨.warn, "session log write failed: " ++ e.message⟩])

/-- What taking chunks has come to. -/
structure Taken (τ : Type) where
  found : Option Match
  connection : Connection τ
  files : Files
  records : List Record

/-- Takes chunks until a pattern matches in the buffer. The chunks behind that one stay. -/
def take (patterns : List Pattern) :
    List Text → Connection τ → Files → List Record → Taken τ
  | chunks, connection, files, records =>
    match connection.buffer.find patterns, chunks with
    | (some found, buffer), _ =>
      ⟨some found, { connection with buffer, arrived := chunks }, files, records⟩
    | (none, _), [] => ⟨none, { connection with arrived := [] }, files, records⟩
    | (none, _), chunk :: rest =>
      let (connection, files, more) := connection.receive chunk files
      take patterns rest connection files (records ++ more)

end Connection

/-- A session over a client program. -/
structure Client (τ : Type) where
  invocation : Invocation
  launch : Launcher τ
  prompt : Pattern := defaultPrompt
  /-- How long the first prompt may take. -/
  connectLimit : Duration := .ofSecs 60
  /-- The file that everything received is written to. -/
  logPath : Option String := none
  /-- The device's name, once it is known. -/
  hostname : Option String := none
  connection : Option (Connection τ) := none

namespace Client

variable {τ : Type}

/-- Whether the client program has been started and is not known to have ended. -/
def isConnected (client : Client τ) : Bool := client.connection.isSome

/-- The text that has been received and not been read. -/
def unread (client : Client τ) : Text :=
  client.connection.elim [] fun connection => connection.buffer.unread

/-- The session without its connection. -/
def dropped (client : Client τ) : Client τ := { client with connection := none }

/-- Disconnects; what was not read is gone. -/
def disconnect (client : Client τ) (files : Files) : Outcome (Client τ) Unit :=
  .done () client.dropped files

/-- Opens the session log. One that cannot be opened is done without. -/
def openLog (client : Client τ) (files : Files) : Option String × Files :=
  match client.logPath with
  | none => (none, files)
  | some path =>
    match files.append path [] with
    | .ok files => (some path, files)
    | .error _ => (none, files)

/-- The name of the device that shows this prompt. -/
def nameInPrompt (prompt : Text) : String :=
  String.ofList (dropEndWhile (fun c => c = '#' || c = '>') (trim prompt))

/-- Takes the device's name from its prompt, unless the name is known. -/
def learnName (prompt : Text) (client : Client τ) : Client τ × List Record :=
  match client.hostname with
  | some _ => (client, [])
  | none =>
    let name := nameInPrompt prompt
    ({ client with hostname := some name }, [⟨.info, "hostname: " ++ name⟩])

variable [Transport τ]

/-- Sends a line. -/
def send (line : String) (client : Client τ) (files : Files) : Outcome (Client τ) Unit :=
  match client.connection with
  | none => .failed .notConnected client files
  | some connection =>
    match Transport.write (encodeUtf8 (line.toList ++ ['\n'])) connection.transport with
    | .ok transport =>
      .done () { client with connection := some { connection with transport } } files
    | .error .brokenPipe => .failed .connectionLost client files
    | .error e => .failed (.io e) client files

/-- Waits for a match. What has arrived is read first; the program is listened to only when
nothing in it matches. When the program has ended and nothing matches, so has the connection. -/
def expect (patterns : List Pattern) (limit : Duration) (client : Client τ) (files : Files) :
    Outcome (Client τ) Match :=
  match client.connection with
  | none =>
    match ({} : Buffer).find patterns with
    | (some found, _) => .done found client files
    | (none, _) => .failed .notConnected client files
  | some connection =>
    let early := connection.take patterns connection.arrived files []
    let answer (taken : Connection.Taken τ) (otherwise : Outcome (Client τ) Match) :
        Outcome (Client τ) Match :=
      match taken.found with
      | some found =>
        (Outcome.done found { client with connection := some taken.connection }
          taken.files).recorded taken.records
      | none => otherwise
    let lost (taken : Connection.Taken τ) : Outcome (Client τ) Match :=
      (Outcome.failed .connectionLost client.dropped taken.files).recorded taken.records
    answer early <|
      if connection.ended then lost early
      else
        let heard := Transport.listen limit early.connection.transport early.files
        let connection :=
          { early.connection with transport := heard.next, ended := heard.ended }
        let late :=
          connection.take patterns (heard.reads.map decodeLossy) heard.files early.records
        answer late <|
          if heard.ended then lost late
          else
            { result := .error (.timeout limit (late.connection.buffer.tail 512))
              next := { client with connection := some late.connection }
              files := late.files
              elapsed := limit
              records := late.records }

/-- Wakes the line up and learns the device's name from the prompt. A session that cannot be
woken up is disconnected again. -/
def wake (client : Client τ) (files : Files) : Outcome (Client τ) Unit :=
  let prompted := (client.send "" files).andThen fun result client files =>
    match result with
    | .ok () => client.expect [client.prompt] client.connectLimit files
    | .error e => .failed e client files
  prompted.andThen fun result client files =>
    match result with
    | .ok found =>
      let (client, records) := client.learnName found.text
      (Outcome.done () client files).recorded records
    | .error e => (client.disconnect files).andThen fun _ client files => .failed e client files

/-- Connects, unless the session is connected. -/
def connect (client : Client τ) (files : Files) : Outcome (Client τ) Unit :=
  if client.isConnected then .done () client files
  else
    Outcome.recorded [⟨.info, "connecting: " ++ client.invocation.render⟩] <|
      match client.launch client.invocation files with
      | .error e => .failed (.io e) client files
      | .ok transport =>
        let (log, files) := client.openLog files
        wake { client with connection := some { transport, log } } files

/-- Connects anew; when forced, the device's name is learned anew too. -/
def reconnect (forced : Bool) (client : Client τ) (files : Files) : Outcome (Client τ) Unit :=
  (client.disconnect files).andThen fun _ client files =>
    connect (if forced then { client with hostname := none } else client) files

instance : Session (Client τ) where
  connect := connect
  disconnect := disconnect
  reconnect := reconnect
  isConnected := isConnected
  send := send
  expect := expect
  prompt := prompt

end Client

end Upkeep
