import Upkeep.Shell.Condition
import Upkeep.Shell.Expansion
import Upkeep.Shell.Format

/-!
# Built-in commands

The commands a shell carries out itself and that run no other command. Each takes its arguments
as bytes, prints at most once, and leaves a status.
-/

namespace Upkeep.Shell.Builtin

/-- A number without a sign. -/
def count? (bytes : Bytes) : Option Nat := (textOf bytes).toNat?

/-- Ends the shell. -/
def exit (arguments : List Bytes) : ShellM Unit := do
  match arguments with
  | [] => throw (.exit (← get).status)
  | n :: _ =>
    match count? n with
    | some n => throw (.exit (n % 256))
    | none => ShellM.abort ("exit: Illegal number: " ++ textOf n)

/-- Jumps with the number that is given, or one. -/
def jump (name : String) (target : Nat → Jump) (arguments : List Bytes) : ShellM Unit := do
  match arguments with
  | [] => throw (target 1)
  | n :: _ =>
    match count? n with
    | some n => throw (target n)
    | none => ShellM.abort (name ++ ": Illegal number: " ++ textOf n)

/-- Jumps in a loop; where there is none, nothing happens. -/
def jumpInLoop (name : String) (target : Nat → Jump) (arguments : List Bytes) : ShellM Unit := do
  if (← get).loops = 0 then ShellM.setStatus 0 else jump name target arguments

/-- Ends a function. -/
def leave (arguments : List Bytes) : ShellM Unit := do
  match arguments with
  | [] => throw (.leaveFunction (← get).status)
  | _ => jump "return" .leaveFunction arguments

/-- Prints its arguments through a format. -/
def printf (arguments : List Bytes) : ShellM Unit := do
  let arguments := if arguments.head? = some (bytesOf "--") then arguments.drop 1 else arguments
  match arguments with
  | [] => ShellM.refuse "printf: usage: printf format [arg ...]"
  | format :: arguments =>
    let printed := Format.apply format arguments
    ShellM.print printed.text
    for complaint in printed.complaints do
      ShellM.complain ("printf: " ++ complaint)
    ShellM.setStatus (if printed.refused then 2 else if printed.complaints.isEmpty then 0 else 1)

/-- Prints its arguments. -/
def echo (arguments : List Bytes) : ShellM Unit := do
  ShellM.print (Format.echo arguments)
  ShellM.setStatus 0

/-- Tests a condition. -/
def test (name : String) (arguments : List Bytes) : ShellM Unit := do
  let s ← get
  match Condition.evaluate s.files s.directory arguments with
  | .ok holds => ShellM.setStatus (if holds then 0 else 1)
  | .error reason => ShellM.refuse (name ++ ": " ++ reason)

/-- A line with its backslashes taken for quotes, and whether it goes on on the next line. -/
def unquoted : Bytes → List Marked × Bool
  | [] => ([], false)
  | [0x5C] => ([], true)
  | 0x5C :: b :: rest =>
    let (line, goesOn) := unquoted rest
    ((b, true) :: line, goesOn)
  | b :: rest =>
    let (line, goesOn) := unquoted rest
    ((b, false) :: line, goesOn)

/-- Reads a line with the lines it goes on with; the fuel bounds their number. -/
def readMarked (raw : Bool) : Nat → ShellM (List Marked × Bool)
  | 0 => return ([], false)
  | fuel + 1 => do
    let (line, ended) ← ShellM.readLine (fuel + 1)
    if raw then return (line.map (·, false), ended)
    let (line, goesOn) := unquoted line
    if goesOn && ended then
      let (more, ended) ← readMarked raw fuel
      return (line ++ more, ended)
    return (line, ended)

/-- The fields of a line for so many names. The last name gets all that is left. -/
def fieldsFor (separators : Bytes) : List String → List Marked → List (String × Bytes)
  | [], _ => []
  | [name], line =>
    let isBlank (m : Marked) : Bool :=
      !m.2 && separators.contains m.1 && (m.1 = 0x20 || m.1 = 0x09 || m.1 = 0x0A)
    let line := (line.dropWhile isBlank).reverse.dropWhile isBlank
    [(name, line.reverse.map (·.1))]
  | name :: names, line =>
    let separates (m : Marked) : Bool := !m.2 && separators.contains m.1
    let isBlank (m : Marked) : Bool :=
      separates m && (m.1 = 0x20 || m.1 = 0x09 || m.1 = 0x0A)
    let line := line.dropWhile isBlank
    let field := line.takeWhile fun m => !separates m
    let behind := (line.drop field.length).dropWhile isBlank
    let behind := match behind with
      | m :: rest => if separates m then rest else behind
      | [] => []
    (name, field.map (·.1)) :: fieldsFor separators names behind

/-- Reads a line into variables. -/
def read (fuel : Nat) (arguments : List Bytes) : ShellM Unit := do
  let (raw, names) := match arguments.map textOf with
    | "-r" :: names => (true, names)
    | names => (false, names)
  if names.isEmpty then ShellM.refuse "read: arg count"
  else
    let (line, ended) ← readMarked raw fuel
    for (name, value) in fieldsFor (← Expansion.separators) names line do
      ShellM.assign name value
    ShellM.setStatus (if ended then 0 else 1)

/-- Drops the first arguments. -/
def shift (arguments : List Bytes) : ShellM Unit := do
  let n := (arguments.head?.bind count?).getD 1
  let s ← get
  if s.arguments.length < n then ShellM.abort "shift: can't shift that many"
  set { s with arguments := s.arguments.drop n, status := 0 }

/-- Sets the arguments; options are taken and do nothing. -/
def setArguments : List Bytes → ShellM Unit
  | [] => ShellM.setStatus 0
  | word :: rest => do
    if word = bytesOf "--" then modify ({ · with arguments := rest, status := 0 })
    else if word.head? = some 0x2D || word.head? = some 0x2B then setArguments rest
    else modify ({ · with arguments := word :: rest, status := 0 })

/-- Takes values away. -/
def unset (arguments : List Bytes) : ShellM Unit := do
  for name in arguments.map textOf do
    modify fun s => { s with
      bindings := s.bindings.filter (·.1 ≠ name)
      functions := s.functions.filter (·.1 ≠ name) }
  ShellM.setStatus 0

/-- Assigns where an argument says so, and may let programs get the variables. -/
def declare (exports : Bool) (arguments : List Bytes) : ShellM Unit := do
  for argument in arguments do
    let name := argument.takeWhile (· ≠ 0x3D)
    if exports then modify fun s => { s with exported := textOf name :: s.exported }
    if name.length < argument.length then
      ShellM.assign (textOf name) (argument.drop (name.length + 1))
  ShellM.setStatus 0

/-- Changes the directory. -/
def changeDirectory (arguments : List Bytes) : ShellM Unit := do
  let target := (arguments.head?.map textOf).getD "."
  let path ← ShellM.place target
  let s ← get
  match s.files.resolve path, s.files.isDirectory path with
  | .ok names, true =>
    let directory := "/".intercalate (s.files.root :: names)
    let bindings := ShellM.assigned "PWD" (bytesOf directory) s.bindings
    set { s with directory, bindings, status := 0 }
  | _, _ => ShellM.refuse ("cd: can't cd to " ++ target)

/-- Prints the directory. -/
def printDirectory : ShellM Unit := do
  ShellM.print (bytesOf ((← get).directory ++ "\n"))
  ShellM.setStatus 0

/-- Sends a signal; only the shell itself is there to get one. -/
def kill (arguments : List Bytes) : ShellM Unit := do
  let (signal, targets) := match arguments.map textOf with
    | "-s" :: signal :: targets => (signal, targets)
    | first :: targets =>
      if first.startsWith "-" then (String.ofList (first.toList.drop 1), targets)
      else ("TERM", first :: targets)
    | [] => ("", [])
  match targets with
  | [] =>
    ShellM.refuse
      ("kill: Usage: kill [-s sigspec | -signum | -sigspec] [pid | job]... or\n" ++
        "kill -l [exitstatus]")
  | _ =>
    if targets.any (· ≠ "1") then ShellM.refuse "kill: No such process" 1
    else if signal = "0" then ShellM.setStatus 0
    else throw .killed

/-- The built-in command of a name, if there is one. The fuel bounds how many lines are read. -/
def find? (fuel : Nat) (name : String) : Option (List Bytes → ShellM Unit) :=
  match name with
  | ":" | "true" | "trap" | "wait" | "umask" => some fun _ => ShellM.setStatus 0
  | "false" => some fun _ => ShellM.setStatus 1
  | "exit" => some exit
  | "return" => some leave
  | "break" => some (jumpInLoop name .leaveLoop)
  | "continue" => some (jumpInLoop name .nextRound)
  | "printf" => some printf
  | "echo" => some echo
  | "read" => some (read fuel)
  | "test" => some (test name)
  | "[" => some fun arguments =>
    if arguments.getLast? = some (bytesOf "]") then test name arguments.dropLast
    else ShellM.refuse "[: missing ]"
  | "shift" => some shift
  | "set" => some setArguments
  | "unset" => some unset
  | "export" => some (declare true)
  | "readonly" | "local" => some (declare false)
  | "cd" => some changeDirectory
  | "pwd" => some fun _ => printDirectory
  | "kill" => some kill
  | _ => none

/-- Commands in front of which assignments stay. -/
def isSpecial (name : String) : Bool :=
  [":", "exit", "return", "break", "continue", "set", "shift", "unset", "export", "readonly",
    "eval", "exec", "trap"].contains name

end Upkeep.Shell.Builtin
