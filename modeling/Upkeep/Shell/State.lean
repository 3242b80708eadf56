import Upkeep.Shell.Running
import Upkeep.Shell.Command

/-!
# The state of a shell

A shell has its parameters and functions, the status of the last command, the input that has come
and was not read, and the places its streams go to. What it prints is kept until somebody takes
it. `ShellM` is what can be run in a shell: it may pause, wait for input, and jump out of a loop,
a function or the shell.
-/

namespace Upkeep.Shell

/-- Where a stream goes. -/
inductive Sink where
  | output
  | errors
  /-- Kept, as the text of an expansion. -/
  | captured
  | discarded
  | file (path : String)
  deriving DecidableEq, Repr

/-- Input that has come. When it is closed, no more will come. -/
structure Input where
  unread : Bytes := []
  closed : Bool := false
  deriving DecidableEq, Repr

/-- Something a command has printed. -/
structure Printed where
  asError : Bool
  bytes : Bytes
  deriving DecidableEq, Repr

/-- A shell. -/
structure State where
  /-- What the shell calls itself in complaints. -/
  name : String
  arguments : List Bytes := []
  bindings : List (String × Bytes) := []
  /-- The variables that programs get. -/
  exported : List String := []
  functions : List (String × Command) := []
  /-- How many functions have been entered. -/
  depth : Nat := 0
  /-- How many loops have been entered. -/
  loops : Nat := 0
  status : Nat := 0
  line : Nat := 1
  input : Input := {}
  output : Sink := .output
  errors : Sink := .errors
  captured : Bytes := []
  /-- What was printed, newest first. -/
  printed : List Printed := []
  files : Files
  directory : String
  /-- The directories where programs are looked for. -/
  searchPath : List String := []

/-- Ways to leave what is running. -/
inductive Jump where
  | exit (status : Nat)
  /-- A signal has ended the process. -/
  | killed
  | leaveLoop (levels : Nat)
  | nextRound (levels : Nat)
  | leaveFunction (status : Nat)
  deriving DecidableEq, Repr

/-- What can be run in a shell. -/
abbrev ShellM := ExceptT Jump (RunM State)

namespace ShellM

/-- Lets others go on. -/
def pause : ShellM Unit := ExceptT.lift RunM.pause

/-- Waits for input. -/
def wait : ShellM Unit := ExceptT.lift RunM.wait

/-- Sets the status. -/
def setStatus (status : Nat) : ShellM Unit := modify ({ · with status })

/-- The value of a variable. -/
def valueOf? (name : String) : ShellM (Option Bytes) := do
  return (← get).bindings.lookup name

/-- Variables with a new value for one of them. -/
def assigned (name : String) (value : Bytes) (bindings : List (String × Bytes)) :
    List (String × Bytes) :=
  (name, value) :: bindings.filter (·.1 ≠ name)

/-- Gives a variable a value. -/
def assign (name : String) (value : Bytes) : ShellM Unit :=
  modify fun s => { s with bindings := assigned name value s.bindings }

/-- A path as the shell's directory makes it. -/
def place (path : String) : ShellM String := return joinPath (← get).directory path

/-- Prints to a place. -/
def put (sink : Sink) (bytes : Bytes) : ShellM Unit :=
  if bytes.isEmpty then pure ()
  else modify fun s =>
    match sink with
    | .output => { s with printed := ⟨false, bytes⟩ :: s.printed }
    | .errors => { s with printed := ⟨true, bytes⟩ :: s.printed }
    | .captured => { s with captured := s.captured ++ bytes }
    | .discarded => s
    | .file path =>
      match s.files.append path bytes with
      | .ok files => { s with files }
      | .error _ => s

/-- Prints. -/
def print (bytes : Bytes) : ShellM Unit := do put (← get).output bytes

/-- Complains, with the shell's name and the line. -/
def complain (message : String) : ShellM Unit := do
  let s ← get
  let text := s.name ++ ": " ++ toString s.line ++ ": " ++ message ++ "\n"
  put s.errors (encodeUtf8 text.toList)

/-- Complains and sets the status. -/
def refuse (message : String) (status : Nat := 2) : ShellM Unit := do
  complain message
  setStatus status

/-- Complains and leaves the shell. -/
def abort {α : Type} (message : String) (status : Nat := 2) : ShellM α := do
  complain message
  throw (.exit status)

/-- Runs something as a shell of its own: what it does to parameters, functions and directory
stays in it, and it can only leave itself. -/
def subshell (body : ShellM Unit) : ShellM Unit := do
  let outer ← get
  let inner : ShellM Unit := tryCatch body fun
    | .exit status | .leaveFunction status => setStatus status
    | .killed => throw .killed
    | .leaveLoop _ | .nextRound _ => pure ()
  inner
  modify fun s => { s with
    name := outer.name, arguments := outer.arguments, bindings := outer.bindings
    exported := outer.exported, functions := outer.functions, depth := outer.depth
    directory := outer.directory }

/-- Runs something with the streams changed, and changes them back also when it jumps. -/
def withStreams (change : State → State) (body : ShellM Unit) : ShellM Unit := do
  let outer ← get
  modify change
  let restore (s : State) : State :=
    { s with output := outer.output, errors := outer.errors }
  let guarded : ShellM Unit := tryCatch body fun jump => do
    modify restore
    throw jump
  guarded
  modify restore

/-- Runs something with another input. -/
def withInput (input : Input) (body : ShellM Unit) : ShellM Unit := do
  let outer := (← get).input
  modify ({ · with input })
  let guarded : ShellM Unit := tryCatch body fun jump => do
    modify ({ · with input := outer })
    throw jump
  guarded
  modify ({ · with input := outer })

/-- What something prints, when it is run as a shell of its own. -/
def capture (body : ShellM Unit) : ShellM Bytes := do
  let outer := (← get).captured
  modify ({ · with captured := [] })
  withStreams ({ · with output := .captured }) (subshell body)
  let captured := (← get).captured
  modify ({ · with captured := outer })
  return captured

/-- Reads up to the end of a line, and says whether the line was ended. The line may come in
several parts, and every part is waited for; the fuel bounds their number. -/
def readLine : Nat → ShellM (Bytes × Bool)
  | 0 => return ([], false)
  | fuel + 1 => do
    let input := (← get).input
    let line := input.unread.takeWhile (· ≠ 0x0A)
    if line.length < input.unread.length then
      modify ({ · with input := { input with unread := input.unread.drop (line.length + 1) } })
      return (line, true)
    else if input.closed then
      modify ({ · with input := { input with unread := [] } })
      return (line, false)
    else
      wait
      readLine fuel

end ShellM

/-- A text of a script as bytes. -/
def bytesOf (text : String) : Bytes := encodeUtf8 text.toList

/-- Bytes as a text. -/
def textOf (bytes : Bytes) : String := String.ofList (decodeLossy bytes)

end Upkeep.Shell
