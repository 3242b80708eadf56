import Upkeep.Session.Client

/-!
# Piped sessions — a device behind a client program, end by end

The sessions of the program. A client program that has been started is held by three ends: the
program itself, its input, and the receiver of what it writes. The session log and the text that
was not read stand beside them. Each of these is set by itself when the session connects, and has
to be reset by itself when the session is disconnected, when it cannot be woken up, and when the
program ends.

`Client` is the same session with all that belongs to a connection in one place.
-/

namespace Upkeep

/-- The end that the output of a client program comes to. -/
structure Receiver where
  /-- Chunks that have arrived and were not taken. -/
  arrived : List Text := []
  /-- Whether nothing will arrive behind them. -/
  ended : Bool := false

/-- A session over a client program, with all ends that it holds. -/
structure Piped (τ : Type) where
  invocation : Invocation
  launch : Launcher τ
  prompt : Pattern := defaultPrompt
  /-- How long the first prompt may take. -/
  connectLimit : Duration := .ofSecs 60
  /-- The file that everything received is written to. -/
  logPath : Option String := none
  /-- The device's name, once it is known. -/
  hostname : Option String := none
  /-- The program, once it has been started. -/
  child : Option τ := none
  /-- Whether the input of the program is held. -/
  stdin : Bool := false
  receiver : Option Receiver := none
  /-- The session log, as long as it can be written. -/
  log : Option String := none
  buffer : Buffer := {}

namespace Piped

variable {τ : Type}

/-- Whether the client program has been started and is not known to have ended. -/
def isConnected (piped : Piped τ) : Bool := piped.child.isSome

/-- The chunks that have arrived and were not taken. -/
def arrived (piped : Piped τ) : List Text := piped.receiver.elim [] Receiver.arrived

/-- Whether nothing will arrive behind them. -/
def ended (piped : Piped τ) : Bool := piped.receiver.elim true Receiver.ended

/-- The session with other chunks in its receiver. -/
def withArrived (chunks : List Text) (piped : Piped τ) : Piped τ :=
  { piped with receiver := piped.receiver.map ({ · with arrived := chunks }) }

/-- Writes a chunk to the session log. A log that cannot be written is given up. -/
def record (chunk : Text) (piped : Piped τ) (files : Files) :
    Piped τ × Files × List Record :=
  match piped.log with
  | none => (piped, files, [])
  | some path =>
    match files.append path (encodeUtf8 chunk) with
    | .ok files => (piped, files, [])
    | .error e =>
      ({ piped with log := none }, files,
        [⟨.warn, "session log write failed: " ++ e.message⟩])

/-- What looking for a match has come to. -/
structure Searched (τ : Type) where
  found : Option Match
  piped : Piped τ
  files : Files
  records : List Record

/-- Looks for a match, and takes chunks until there is one. The chunks behind that one stay. -/
def search (patterns : List Pattern) :
    List Text → Piped τ → Files → List Record → Searched τ
  | chunks, piped, files, records =>
    match piped.buffer.find patterns, chunks with
    | (some found, buffer), _ =>
      ⟨some found, { piped with buffer }.withArrived chunks, files, records⟩
    | (none, _), [] => ⟨none, piped.withArrived [], files, records⟩
    | (none, _), chunk :: rest =>
      let (piped, files, more) := piped.record chunk files
      search patterns rest { piped with buffer := piped.buffer.push chunk } files
        (records ++ more)

/-- Takes the device's name from its prompt, unless the name is known. -/
def learnName (prompt : Text) (piped : Piped τ) : Piped τ × List Record :=
  match piped.hostname with
  | some _ => (piped, [])
  | none =>
    let name := Client.nameInPrompt prompt
    ({ piped with hostname := some name }, [⟨.info, "hostname: " ++ name⟩])

/-- Starts the client program and holds its ends. The session log is opened if there is to be one;
one that cannot be opened is done without. -/
def start (piped : Piped τ) (files : Files) : Except IoError (Piped τ × Files) :=
  match piped.launch piped.invocation files with
  | .error e => .error e
  | .ok program =>
    let piped :=
      { piped with child := some program, stdin := true, receiver := some {} }
    match piped.logPath with
    | none => .ok (piped, files)
    | some path =>
      match files.append path [] with
      | .ok files => .ok ({ piped with log := some path }, files)
      | .error _ => .ok ({ piped with log := none }, files)

variable [Transport τ]

/-- Writes to the input of the program. The input of a program that was let go is broken. -/
def write (bytes : Bytes) (piped : Piped τ) : Except IoError (Piped τ) :=
  match piped.child with
  | none => .error .brokenPipe
  | some program =>
    (Transport.write bytes program).map fun program => { piped with child := some program }

/-- Lets the input of the program go, with a last line that need not arrive. -/
def leave (piped : Piped τ) : Piped τ :=
  if piped.stdin then
    let piped := (piped.write (encodeUtf8 "exit\n".toList)).toOption.getD piped
    { piped with stdin := false }
  else piped

/-- Disconnects: the program is stopped, and what was not read is gone. -/
def disconnect (piped : Piped τ) (files : Files) : Outcome (Piped τ) Unit :=
  let piped := piped.leave
  let piped := { piped with child := none }
  .done () { piped with receiver := none, log := none, buffer := {} } files

/-- Sends a line. -/
def send (line : String) (piped : Piped τ) (files : Files) : Outcome (Piped τ) Unit :=
  if piped.stdin then
    match piped.write (encodeUtf8 (line.toList ++ ['\n'])) with
    | .ok piped => .done () piped files
    | .error .brokenPipe => .failed .connectionLost piped files
    | .error e => .failed (.io e) piped files
  else .failed .notConnected piped files

/-- Gives the program time to write. Nothing comes from one that has ended or was let go. -/
def listen (limit : Duration) (receiver : Receiver) (piped : Piped τ) (files : Files) :
    Piped τ × Files :=
  match piped.child with
  | none => ({ piped with receiver := some { receiver with ended := true } }, files)
  | some program =>
    if receiver.ended then (piped, files)
    else
      let heard := Transport.listen limit program files
      ({ piped with
          child := some heard.next
          receiver := some ⟨receiver.arrived ++ heard.reads.map decodeLossy, heard.ended⟩ },
        heard.files)

/-- What a wait comes to when nothing more will be read in time. When the program has ended and
nothing matches, the session is disconnected. -/
def conclude (limit : Duration) (late : Searched τ) : Outcome (Piped τ) Match :=
  match late.found with
  | some found => (Outcome.done found late.piped late.files).recorded late.records
  | none =>
    if late.piped.ended then
      Outcome.recorded late.records <|
        (late.piped.disconnect late.files).andThen fun _ piped files =>
          .failed .connectionLost piped files
    else
      { result := .error (.timeout limit (late.piped.buffer.tail 512))
        next := late.piped
        files := late.files
        elapsed := limit
        records := late.records }

/-- Waits for a match. What has arrived is read first; the program is listened to only when
nothing in it matches. -/
def expect (patterns : List Pattern) (limit : Duration) (piped : Piped τ) (files : Files) :
    Outcome (Piped τ) Match :=
  let early := piped.search patterns piped.arrived files []
  match early.found, early.piped.receiver with
  | some found, _ => (Outcome.done found early.piped early.files).recorded early.records
  | none, none => (Outcome.failed .notConnected early.piped early.files).recorded early.records
  | none, some receiver =>
    let (piped, files) := early.piped.listen limit receiver early.files
    conclude limit (piped.search patterns piped.arrived files early.records)

/-- Wakes the line up and learns the device's name from the prompt. A session that cannot be
woken up is disconnected again. -/
def wake (piped : Piped τ) (files : Files) : Outcome (Piped τ) Unit :=
  let prompted := (piped.send "" files).andThen fun result piped files =>
    match result with
    | .ok () => piped.expect [piped.prompt] piped.connectLimit files
    | .error e => .failed e piped files
  prompted.andThen fun result piped files =>
    match result with
    | .ok found =>
      let (piped, records) := piped.learnName found.text
      (Outcome.done () piped files).recorded records
    | .error e =>
      (piped.disconnect files).andThen fun _ piped files => .failed e piped files

/-- Connects, unless the session is connected. -/
def connect (piped : Piped τ) (files : Files) : Outcome (Piped τ) Unit :=
  if piped.isConnected then .done () piped files
  else
    Outcome.recorded [⟨.info, "connecting: " ++ piped.invocation.render⟩] <|
      match piped.start files with
      | .error e => .failed (.io e) piped files
      | .ok (piped, files) => piped.wake files

/-- Connects anew; when forced, the device's name is learned anew too. -/
def reconnect (forced : Bool) (piped : Piped τ) (files : Files) : Outcome (Piped τ) Unit :=
  (piped.disconnect files).andThen fun _ piped files =>
    connect (if forced then { piped with hostname := none } else piped) files

instance : Session (Piped τ) where
  connect := connect
  disconnect := disconnect
  reconnect := reconnect
  isConnected := isConnected
  send := send
  expect := expect
  prompt := prompt

end Piped

end Upkeep
