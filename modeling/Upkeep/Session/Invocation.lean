import Upkeep.Session.Basic
import Upkeep.Session.Url

/-!
# Invocations — the client program for a list of urls

The last url of a list is the device's. The urls before it are hops on the way, which only the ssh
client knows. `Invocation.ofUrls` gives the client program with its arguments.
-/

namespace Upkeep

/-- A program and its arguments. -/
structure Invocation where
  program : String
  arguments : List String
  deriving DecidableEq, Repr

namespace Invocation

/-- The invocation on one line. -/
def render (invocation : Invocation) : String :=
  invocation.program ++ " " ++ " ".intercalate invocation.arguments

/-- What a text says as a session url. -/
def readUrl (text : String) : Except SessionError SessionUrl :=
  match SessionUrl.read? text with
  | some url => .ok url
  | none => .error (.invalidUrl text)

/-- The hop of a url on the way to a device that is reached by the given protocol. -/
def hop (protocol : Protocol) (text : String) : Except SessionError String := do
  let url ← readUrl text
  if url.protocol = .ssh ∧ protocol = .ssh then return url.jump else throw (.invalidUrl text)

/-- The arguments of the ssh client. -/
def sshArguments (hops : List String) (url : SessionUrl) : List String :=
  ["-tt", "-o", "BatchMode=yes", "-o", "ConnectTimeout=10"] ++
    (if hops.isEmpty then [] else ["-J", ",".intercalate hops]) ++
    (match url.port with | some port => ["-p", toString port] | none => []) ++
    (match url.user with | some user => ["-l", user] | none => []) ++ [url.host]

/-- The arguments of the telnet client. -/
def telnetArguments (url : SessionUrl) : List String :=
  url.host :: (match url.port with | some port => [toString port] | none => [])

/-- The client for the last of some urls, by way of the others. -/
def ofUrls (urls : List String) : Except SessionError Invocation :=
  match urls.getLast? with
  | none => .error (.invalidUrl "")
  | some last => do
    let url ← readUrl last
    let hops ← urls.dropLast.mapM (hop url.protocol)
    match url.protocol with
    | .ssh => return ⟨"ssh", sshArguments hops url⟩
    | .telnet => return ⟨"telnet", telnetArguments url⟩

end Invocation

end Upkeep
