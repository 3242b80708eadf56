import Upkeep.Plugin.Script
import Upkeep.Session.Transport
import Upkeep.Shell.Evaluation

/-!
# Children — programs that run beside the host

A child is a program that was started. It runs only while somebody listens to it, up to the point
where it waits for input, ends, or has paused so often that it will not be heard of in time.
`commandRunner` runs the commands of script plugins, and client sessions have a child for their
transport.
-/

namespace Upkeep.Shell

/-- A program that has been started. -/
structure Child where
  running : Running State (Except Jump Unit)

namespace Child

/-- How deep a child may go before it gives up; nobody waits for it that long. -/
def fuel : Nat := 1000000000000

/-- How often a child may pause before nobody listens any more. -/
def patience : Nat := 20000

/-- The directory of a path, from the root on. -/
def place (files : Files) (path : String) : Except IoError String := do
  let names ← files.resolve path
  if files.node? names = some .directory then return "/".intercalate (files.root :: names)
  else throw (if (files.node? names).isSome then .notDirectory else .notFound)

/-- Whether a program can be started: a script file has to name its interpreter. -/
def startable (files : Files) : Program → Bool
  | .shell => true
  | .script path =>
    match files.read path with
    | .ok (0x23 :: 0x21 :: _) => true
    | _ => false

/-- Starts a program in a directory. -/
def start (searchPath : List String) (directory : String) (input : Input)
    (invocation : Invocation) (files : Files) : Except IoError Child := do
  let texts := invocation.program :: invocation.arguments
  if texts.any (·.contains '\x00') then throw .nullInCommand
  let directory ← if directory.isEmpty then pure files.root else place files directory
  let program ← Program.find files directory searchPath invocation.program
  if !startable files program then throw .notExecutable
  let body := program.run (Command.run fuel) invocation.program
    (invocation.arguments.map bytesOf)
  let state : State := { name := invocation.program, input, files, directory, searchPath }
  return ⟨.paused state body.run⟩

/-- How the child has ended, if it has. -/
def status? (child : Child) : Option ExitStatus :=
  match child.running with
  | .done (.error .killed) _ => some .signal
  | .done (.error (.exit n)) _ | .done (.error (.leaveFunction n)) _ => some (.code n)
  | .done _ state => some (.code state.status)
  | .paused _ _ | .waiting _ _ => none

/-- Lets the child go on with the files as they are. Gives what it has printed meanwhile, oldest
first, the child and the files. -/
def goOn (child : Child) (files : Files) : List Printed × Child × Files :=
  let running := (child.running.withState ({ · with files, printed := [] })).wake
  let running := running.advance patience
  (running.state.printed.reverse, ⟨running⟩, running.state.files)

/-- Puts bytes behind the input. -/
def feed (bytes : Bytes) (child : Child) : Child :=
  ⟨child.running.withState fun s =>
    { s with input := { s.input with unread := s.input.unread ++ bytes } }⟩

/-- The most bytes that one read takes. -/
def readSize : Nat := 4096

/-- What was printed to one stream without a break, run by run: it is there together when it is
read. -/
def bursts (printed : List Printed) : List Bytes :=
  (printed.splitBy fun a b => a.asError = b.asError).map fun run => run.flatMap (·.bytes)

/-- Bytes as they are read. The number of bytes is the fuel. -/
def inReads (bytes : Bytes) : List Bytes := go bytes.length bytes
where
  go : Nat → Bytes → List Bytes
    | 0, _ => []
    | fuel + 1, bytes =>
      if bytes.isEmpty then [] else bytes.take readSize :: go fuel (bytes.drop readSize)

instance : Transport Child where
  write bytes child :=
    if child.status?.isSome then .error .brokenPipe else .ok (child.feed bytes)
  listen limit child files :=
    if limit = .zero then { reads := [], ended := false, next := child, files }
    else
      let (printed, child, files) := child.goOn files
      { reads := (bursts printed).flatMap inReads
        ended := child.status?.isSome, next := child, files }

end Child

/-- The launcher of programs found along a search path. -/
def launcher (searchPath : List String) : Launcher Child := fun invocation files =>
  Child.start searchPath "" {} invocation files

/-- What a finished command has printed: first what was no complaint. -/
def outputText (printed : List Printed) : String :=
  let part (asError : Bool) : Text :=
    decodeLossy ((printed.filter (·.asError = asError)).flatMap (·.bytes))
  String.ofList (part false ++ part true)

/-- Runs commands in the shell, with nothing to read. -/
def commandRunner (searchPath : List String) : CommandRunner := fun command directory limit files =>
  match Child.start searchPath directory { closed := true } ⟨"sh", ["-c", command]⟩ files with
  | .error e => (.failed e, files)
  | .ok child =>
    if limit = .zero then (.timedOut, files)
    else
      let (printed, child, files) := child.goOn files
      match child.status? with
      | some status => (.finished (outputText printed) status, files)
      | none => (.timedOut, files)

end Upkeep.Shell
