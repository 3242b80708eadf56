import Upkeep.Session.Buffer
import Upkeep.Session.Echo
import Upkeep.Host.Basic
import Upkeep.Text.Quoted

/-!
# Sessions — how the host talks to a device

`Session` says what a session can be asked for. A call gives a result, the session's next state
and file tree, the time it took and the records it made; so a session can take time, write its
log and fail, and has no hold on anything else. `Link` is a session together with the host, and
`Link.command` sends a line and waits for the prompt behind its output.
-/

namespace Upkeep

/-- Why a session call fails. -/
inductive SessionError where
  /-- Nothing matched in time; the end of what arrived is kept. -/
  | timeout (waited : Duration) (tail : Text)
  | connectionLost
  | notConnected
  | invalidUrl (url : String)
  | io (error : IoError)
  deriving DecidableEq, Repr

/-- The failure in words. -/
def SessionError.message : SessionError → String
  | .timeout waited tail =>
    "no match within " ++ waited.render ++ "; last output: " ++ quoted (String.ofList tail)
  | .connectionLost => "connection closed by device"
  | .notConnected => "session is not connected"
  | .invalidUrl url => "invalid session url '" ++ url ++ "' (only telnet and ssh are supported)"
  | .io error => error.message

/-- What a session call comes to. -/
structure Outcome (σ α : Type) where
  result : Except SessionError α
  next : σ
  files : Files
  elapsed : Duration := .zero
  records : List Record := []

namespace Outcome

variable {σ α β : Type}

/-- A call that gives a value at once. -/
def done (a : α) (next : σ) (files : Files) : Outcome σ α := { result := .ok a, next, files }

/-- A call that fails at once. -/
def failed (e : SessionError) (next : σ) (files : Files) : Outcome σ α :=
  { result := .error e, next, files }

/-- A call behind another one, whatever that one came to. -/
def andThen (first : Outcome σ α) (f : Except SessionError α → σ → Files → Outcome σ β) :
    Outcome σ β :=
  let second := f first.result first.next first.files
  { second with
    elapsed := first.elapsed + second.elapsed
    records := first.records ++ second.records }

/-- A call that has made records first. -/
def recorded (records : List Record) (outcome : Outcome σ α) : Outcome σ α :=
  { outcome with records := records ++ outcome.records }

end Outcome

/-- An interactive session with states in `σ`. -/
class Session (σ : Type) where
  connect : σ → Files → Outcome σ Unit
  disconnect : σ → Files → Outcome σ Unit
  /-- Connects anew. When forced, everything learned about the device is learned again. -/
  reconnect (forced : Bool) : σ → Files → Outcome σ Unit
  isConnected : σ → Bool
  /-- Sends a line. -/
  send (line : String) : σ → Files → Outcome σ Unit
  /-- Waits until one of the patterns matches what has arrived. -/
  expect (patterns : List Pattern) (limit : Duration) : σ → Files → Outcome σ Match
  /-- What a prompt looks like. -/
  prompt : σ → Pattern

/-- The prompt of a usual command line: a name and `#` or `>` at the end of a line. -/
def defaultPrompt : Pattern := .ofText "(?m)[\\w\\-.:/()]+[#>]\\s*$"

/-- A session and the host it runs on. -/
structure Link (σ : Type) where
  session : σ
  host : Host

/-- What is done over a link; it fails with `ε`, and what happened before stays done. -/
abbrev LinkM (ε σ α : Type) := ExceptT ε (StateM (Link σ)) α

namespace Link

variable {ε σ α : Type}

/-- The link after a call: the host has the call's files, time and records. -/
def after (link : Link σ) (outcome : Outcome σ α) : Link σ :=
  { session := outcome.next
    host := { link.host with
      files := outcome.files
      clock := link.host.clock + outcome.elapsed
      journal := link.host.journal ++ outcome.records.map .record } }

/-- Makes a session call over the link. -/
def call (f : σ → Files → Outcome σ α) : LinkM SessionError σ α := fun link =>
  let outcome := f link.session link.host.files
  (outcome.result, link.after outcome)

/-- Changes the host. -/
def onHost (f : Host → Host) : LinkM ε σ Unit := fun link =>
  (.ok (), { link with host := f link.host })

/-- Records a message. -/
def log (level : Level) (message : String) : LinkM ε σ Unit := onHost (·.log level message)

/-- Lets the errors of an action stand for others. -/
def mapError {δ : Type} (f : ε → δ) (action : LinkM ε σ α) : LinkM δ σ α := fun link =>
  match action link with
  | (.ok a, link) => (.ok a, link)
  | (.error e, link) => (.error (f e), link)

/-- The result of an action that may fail, as a value. -/
def attempt {δ : Type} (action : LinkM ε σ α) : LinkM δ σ (Except ε α) := fun link =>
  match action link with
  | (result, link) => (.ok result, link)

variable [Session σ]

/-- Sends a command and gives its output up to the next prompt, without its echo. -/
def command (line : String) (limit : Duration) : LinkM SessionError σ Text := do
  call (Session.send line)
  let prompt := Session.prompt (← get).session
  let found ← call (Session.expect [prompt] limit)
  return stripEcho line.toList found.before

end Link

end Upkeep
