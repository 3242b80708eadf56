import Upkeep.Session.Basic
import Upkeep.Text.Blank

/-!
# Replayed sessions — a device that answers from a script

A replay holds replies for lines, several for one line if need be. A sent line makes its next
reply arrive; the last reply of a line is given again and again. Nothing is ever waited for: what
has not arrived when it is expected has not arrived in time. The session keeps account of what it
was asked.
-/

namespace Upkeep

/-- What a replayed session was asked. -/
structure ReplayLog where
  sent : List String := []
  connects : Nat := 0
  disconnects : Nat := 0
  /-- Whether each reconnect was forced. -/
  reconnects : List Bool := []
  /-- The limit of each wait. -/
  waits : List Duration := []
  deriving DecidableEq, Repr

/-- A session that replays canned output. -/
structure Replay where
  hostname : String := "router"
  prompt : Pattern := defaultPrompt
  /-- The replies left for each line, without blanks around it. -/
  replies : List (String × List Text) := []
  buffer : Buffer := {}
  connected : Bool := true
  log : ReplayLog := {}

namespace Replay

/-- The replies left for a line. -/
def queue (replay : Replay) (key : String) : List Text :=
  match replay.replies.find? (·.1 = key) with
  | some (_, texts) => texts
  | none => []

/-- The replay with other replies for a line. -/
def setQueue (replay : Replay) (key : String) (texts : List Text) : Replay :=
  if replay.replies.any (·.1 = key) then
    { replay with replies := replay.replies.map fun entry =>
        if entry.1 = key then (key, texts) else entry }
  else { replay with replies := replay.replies ++ [(key, texts)] }

/-- Puts a text behind the replies for a line. -/
def reply (replay : Replay) (line : String) (text : Text) : Replay :=
  let key := trimmed line
  replay.setQueue key (replay.queue key ++ [text])

/-- Puts a command's output behind the replies for it, between the echo and the prompt. -/
def respond (replay : Replay) (command output : String) : Replay :=
  replay.reply command (command ++ "\r\n" ++ output ++ "\r\n" ++ replay.hostname ++ "#").toList

/-- The next reply of a queue and the replies left; the last one stays. -/
def takeReply : List Text → Option Text × List Text
  | [] => (none, [])
  | [last] => (some last, [last])
  | next :: rest => (some next, rest)

/-- The replay with its log changed. -/
def noting (replay : Replay) (f : ReplayLog → ReplayLog) : Replay :=
  { replay with log := f replay.log }

/-- Connects. -/
def connect (replay : Replay) : Replay :=
  { replay with connected := true }.noting fun log => { log with connects := log.connects + 1 }

/-- Disconnects; text that was not read is gone. -/
def disconnect (replay : Replay) : Replay :=
  { replay with connected := false, buffer := replay.buffer.clear }.noting fun log =>
    { log with disconnects := log.disconnects + 1 }

/-- Connects anew; text that was not read is gone. -/
def reconnect (forced : Bool) (replay : Replay) : Replay :=
  { replay with connected := true, buffer := replay.buffer.clear }.noting fun log =>
    { log with reconnects := log.reconnects ++ [forced] }

/-- Lets the next reply for a line arrive. -/
def deliver (line : String) (replay : Replay) : Replay :=
  let key := trimmed line
  match takeReply (replay.queue key) with
  | (some text, rest) => { replay.setQueue key rest with buffer := replay.buffer.push text }
  | (none, _) => replay

/-- Sends a line. -/
def send (line : String) (replay : Replay) (files : Files) : Outcome Replay Unit :=
  if replay.connected then
    .done () ((replay.noting fun log => { log with sent := log.sent ++ [line] }).deliver line) files
  else .failed .notConnected replay files

/-- Takes the earliest match from what has arrived. -/
def expect (patterns : List Pattern) (limit : Duration) (replay : Replay) (files : Files) :
    Outcome Replay Match :=
  let replay := replay.noting fun log => { log with waits := log.waits ++ [limit] }
  if replay.connected then
    match replay.buffer.find patterns with
    | (some found, buffer) => .done found { replay with buffer } files
    | (none, _) => .failed (.timeout limit (replay.buffer.tail 512)) replay files
  else .failed .notConnected replay files

instance : Session Replay where
  connect replay files := .done () replay.connect files
  disconnect replay files := .done () replay.disconnect files
  reconnect forced replay files := .done () (replay.reconnect forced) files
  isConnected := connected
  send := send
  expect := expect
  prompt := prompt

end Replay

end Upkeep
