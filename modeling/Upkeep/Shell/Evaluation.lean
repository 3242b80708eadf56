import Upkeep.Shell.Builtin
import Upkeep.Shell.Reader

/-!
# Evaluation — running commands

`Command.run` runs a command in a shell. It goes one level down from its fuel with every call; a
shell gets so much of it that no script comes to its end before its user gives up, and since the
rounds of a loop pause, the fuel costs nothing until it is used.

A program is the shell itself or a script file that can be executed; either runs as a shell of
its own, with the same input and streams.
-/

namespace Upkeep.Shell

/-- What a program's name stands for. -/
inductive Program where
  | shell
  | script (path : String)
  deriving DecidableEq, Repr

namespace Program

/-- The program at a path; a file has to be executable. -/
def at? (files : Files) (path : String) : Except IoError Program := do
  let names ← files.resolve path
  match files.node? names with
  | none => .error .notFound
  | some (.file _ true) => .ok (.script path)
  | some _ => .error .permissionDenied

/-- The program of a name. A name with a slash is a path; any other one is looked for in the
directories of the search path, and the shell is behind all of them. -/
def find (files : Files) (directory : String) (searchPath : List String) (name : String) :
    Except IoError Program :=
  if name.isEmpty then .error .notFound
  else if name.contains '/' then at? files (joinPath directory name)
  else
    let found := searchPath.map fun place => at? files (joinPath place name)
    match found.findSome? fun result => result.toOption with
    | some program => .ok program
    | none =>
      if name = "sh" then .ok .shell
      else
        .error (if found.any fun result => match result with
            | .error .permissionDenied => true
            | _ => false
          then .permissionDenied else .notFound)

end Program

/-- How deep functions may call one another. -/
def maxDepth : Nat := 1000

/-- Runs the round of a loop and says whether there is another one. A jump that leaves more loops
goes on, if there are more. -/
def ShellM.round (body : ShellM Unit) : ShellM Bool := do
  let outer := (← get).loops
  modify ({ · with loops := outer + 1 })
  let attempt : ShellM Bool := tryCatch (do body; return true) fun jump => do
    modify ({ · with loops := outer })
    match jump with
    | .leaveLoop n => if n ≤ 1 || outer = 0 then return false else throw (.leaveLoop (n - 1))
    | .nextRound n => if n ≤ 1 || outer = 0 then return true else throw (.nextRound (n - 1))
    | jump => throw jump
  let goesOn ← attempt
  modify ({ · with loops := outer })
  return goesOn

/-- The words of a complaint about a file that is not opened. -/
def openComplaint (access : Access) (path : String) (error : IoError) : String :=
  let reason := match access, error with
    | .read, .notFound | .read, .notDirectory => "No such file"
    | _, .notFound | _, .notDirectory => "Directory nonexistent"
    | _, .isDirectory => "Is a directory"
    | _, .permissionDenied => "Permission denied"
    | _, other => other.message
  (if access = .read then "cannot open " else "cannot create ") ++ path ++ ": " ++ reason

/-- Lets a stream go to a place. Streams other than the usual ones go nowhere. -/
def State.redirect (s : State) (stream : Nat) (sink : Sink) : State :=
  match stream with
  | 1 => { s with output := sink }
  | 2 => { s with errors := sink }
  | _ => s

/-- Opens a file for a stream; says whether that has worked. -/
def ShellM.openStream (stream : Nat) (access : Access) (path : String) : ShellM Bool := do
  let s ← get
  let place := joinPath s.directory path
  let refused (error : IoError) : ShellM Bool := do
    ShellM.complain (openComplaint access path error)
    return false
  match path, access with
  | "/dev/null", .read =>
    set { s with input := { closed := true } }
    return true
  | "/dev/null", _ => set (s.redirect stream .discarded); return true
  | "/dev/stdout", .write | "/dev/stdout", .append => set (s.redirect stream s.output); return true
  | "/dev/stderr", .write | "/dev/stderr", .append => set (s.redirect stream s.errors); return true
  | _, .read =>
    match s.files.read place with
    | .ok content =>
      set { s with input := { unread := content, closed := true } }
      return true
    | .error error => refused error
  | _, _ =>
    let opened := if access = .append then s.files.append place [] else s.files.write place []
    match opened with
    | .ok files =>
      set ({ s with files }.redirect stream (.file place))
      return true
    | .error error => refused error

/-- Lets a stream go to where another one goes; says whether there is one. -/
def ShellM.copyStream (stream : Nat) (source : String) : ShellM Bool := do
  let s ← get
  match source with
  | "-" => set (s.redirect stream .discarded); return true
  | "0" => return true
  | "1" => set (s.redirect stream s.output); return true
  | "2" => set (s.redirect stream s.errors); return true
  | _ =>
    ShellM.complain (source ++ ": Bad file descriptor")
    return false

/-- Whether a redirection changes the input. -/
def Redirection.isInput : Redirection → Bool
  | .file _ .read _ => true
  | .file _ _ _ | .copy _ _ => false

/-- Redirects streams, in order; says whether all have worked. -/
def ShellM.redirect (run : Command → ShellM Unit) : List Redirection → ShellM Bool
  | [] => return true
  | .file stream access path :: rest => do
    let path := textOf (← Expansion.text run path)
    if ← openStream stream access path then redirect run rest else return false
  | .copy stream source :: rest => do
    let source := textOf (← Expansion.text run source)
    if ← copyStream stream source then redirect run rest else return false

/-- Runs something with streams redirected. -/
def ShellM.redirected (run : Command → ShellM Unit) (redirections : List Redirection)
    (body : ShellM Unit) : ShellM Unit := do
  if redirections.isEmpty then body
  else
    let work : ShellM Unit := do
      if ← redirect run redirections then body else setStatus 2
    let work := withStreams id work
    if redirections.any Redirection.isInput then withInput (← get).input work else work

/-- Whether a word has a command in it. -/
def Piece.runs : Piece → Bool
  | .output _ _ => true
  | .literal _ _ | .parameter _ _ _ | .arithmetic _ _ => false

/-- Runs a script: its commands, and then the complaint about its mistake. -/
def Script.run (run : Command → ShellM Unit) (script : Script) : ShellM Unit := do
  for command in script.commands do
    run command
  if let some (line, mistake) := script.mistake then
    modify ({ · with line })
    ShellM.abort ("Syntax error: " ++ mistake)

/-- The script that a program runs with its arguments, with the name and the arguments that the
script gets. -/
def Program.load (s : State) (program : Program) (name : String) (arguments : List Bytes) :
    Except String (Script × String × List Bytes) :=
  let fromFile (path shown : String) (arguments : List Bytes) :
      Except String (Script × String × List Bytes) :=
    match s.files.read path with
    | .ok content => .ok (.read (decodeLossy content), shown, arguments)
    | .error error => .error (openComplaint .read shown error)
  match program, arguments with
  | .script path, _ => fromFile path (if name.contains '/' then name else path) arguments
  | .shell, [] => .ok (⟨[], none⟩, name, [])
  | .shell, first :: rest =>
    if first = bytesOf "-c" then
      match rest with
      | [] => .error "-c requires an argument"
      | text :: rest =>
        .ok (.read (decodeLossy text), (rest.head?.map textOf).getD name, rest.drop 1)
    else fromFile (joinPath s.directory (textOf first)) (textOf first) rest

/-- A shell at the start of a program. -/
def State.fresh (s : State) (name : String) (arguments : List Bytes) : State :=
  { s with
    name, arguments, functions := [], depth := 0, loops := 0, line := 1
    bindings := [("PWD", bytesOf s.directory), ("IFS", [0x20, 0x09, 0x0A])] ++
      s.bindings.filter fun (name, _) => s.exported.contains name }

/-- Runs a program. -/
def Program.run (run : Command → ShellM Unit) (program : Program) (name : String)
    (arguments : List Bytes) : ShellM Unit := do
  match program.load (← get) name arguments with
  | .error complaint => ShellM.refuse complaint
  | .ok (loaded, name, arguments) =>
    modify fun s => { s.fresh name arguments with status := 0 }
    loaded.run run

mutual

/-- Runs a command. -/
def Command.run : Nat → Command → ShellM Unit
  | 0, _ => ShellM.abort "out of memory"
  | fuel + 1, command => do
    let run : Command → ShellM Unit := Command.run fuel
    match command with
    | .skip => return
    | .sequence first second => run first; run second
    | .both first second =>
      run first
      if (← get).status = 0 then run second
    | .either first second =>
      run first
      if (← get).status ≠ 0 then run second
    | .negate body =>
      run body
      ShellM.setStatus (if (← get).status = 0 then 1 else 0)
    | .pipe source sink =>
      let text ← ShellM.capture (run source)
      ShellM.withInput { unread := text, closed := true } (ShellM.subshell (run sink))
    | .loop untilDone test body => rounds fuel untilDone test body 0
    | .choose test yes no =>
      run test
      if (← get).status = 0 then run yes
      else
        match no with
        | .skip => ShellM.setStatus 0
        | no => run no
    | .select subject branches =>
      let subject ← Expansion.text run subject
      ShellM.setStatus 0
      branch fuel subject branches
    | .each line name words body =>
      modify ({ · with line })
      let values ← match words with
        | some words => Expansion.arguments run words
        | none => pure (← get).arguments
      ShellM.setStatus 0
      eachOf fuel name body values
    | .subshell body => ShellM.subshell (run body)
    | .define name body =>
      modify fun s => { s with
        functions := (name, body) :: s.functions.filter (·.1 ≠ name), status := 0 }
    | .redirected line body redirections =>
      modify ({ · with line })
      ShellM.redirected run redirections (run body)
    | .simple line assignments words redirections =>
      modify ({ · with line })
      match ← Expansion.arguments run words with
      | [] =>
        ShellM.redirected run redirections (return)
        for (name, value) in assignments do
          ShellM.assign name (← Expansion.text run value)
        let pieces := words.flatten ++ assignments.flatMap (·.2)
        if !pieces.any Piece.runs then ShellM.setStatus 0
      | name :: arguments =>
        let name := textOf name
        let before ← get
        for (name, value) in assignments do
          ShellM.assign name (← Expansion.text run value)
          modify fun s => { s with exported := name :: s.exported }
        if name = "exec" && arguments.isEmpty then
          if ← ShellM.redirect run redirections then ShellM.setStatus 0
          else throw (.exit 2)
        else
          ShellM.redirected run redirections (call fuel name arguments)
        if !assignments.isEmpty && !Builtin.isSpecial name then
          let restored := assignments.foldl (fun bindings (name, _) =>
            match before.bindings.lookup name with
            | some value => ShellM.assigned name value bindings
            | none => bindings.filter (·.1 ≠ name)) (← get).bindings
          modify ({ · with bindings := restored, exported := before.exported })

/-- Runs the rounds of a loop, with the status of the last one. -/
def rounds : Nat → Bool → Command → Command → Nat → ShellM Unit
  | 0, _, _, _, _ => ShellM.abort "out of memory"
  | fuel + 1, untilDone, test, body, last => do
    let goesOn ← ShellM.round do
      test.run fuel
      let holds := (← get).status = 0
      if holds = untilDone then
        ShellM.setStatus last
        throw (.leaveLoop 1)
      body.run fuel
    if goesOn then
      let last := (← get).status
      ShellM.pause
      rounds fuel untilDone test body last

/-- Runs a body for each of the values. -/
def eachOf : Nat → String → Command → List Bytes → ShellM Unit
  | 0, _, _, _ => ShellM.abort "out of memory"
  | _, _, _, [] => return
  | fuel + 1, name, body, value :: values => do
    ShellM.assign name value
    if ← ShellM.round (body.run fuel) then
      ShellM.pause
      eachOf fuel name body values

/-- Runs the first branch that has a pattern for the subject. -/
def branch : Nat → Bytes → List (List Word × Command) → ShellM Unit
  | 0, _, _ => ShellM.abort "out of memory"
  | _, _, [] => return
  | fuel + 1, subject, (patterns, body) :: rest => do
    let tokens ← patterns.mapM (Expansion.pattern (Command.run fuel))
    if tokens.any (Glob.matchesAll · subject) then body.run fuel
    else branch fuel subject rest

/-- Runs what a name stands for: a function, a built-in command or a program. -/
def call : Nat → String → List Bytes → ShellM Unit
  | 0, _, _ => ShellM.abort "out of memory"
  | fuel + 1, name, arguments => do
    let s ← get
    if let some body := s.functions.lookup name then
      if maxDepth ≤ s.depth then
        ShellM.abort "Maximum function recursion depth (1000) reached"
      set { s with arguments, depth := s.depth + 1 }
      let restore : ShellM Unit :=
        modify fun t => { t with arguments := s.arguments, depth := s.depth }
      let work : ShellM Unit := tryCatch (body.run fuel) fun jump => do
        match jump with
        | .leaveFunction status => ShellM.setStatus status
        | jump =>
          restore
          throw jump
      work
      restore
    else if let some run := Builtin.find? fuel name then run arguments
    else
      match name with
      | "eval" =>
        let text := List.intercalate [0x20] arguments
        ShellM.setStatus 0
        (Script.read (decodeLossy text)).run (Command.run fuel)
      | "exec" =>
        match arguments with
        | [] => return
        | name :: arguments =>
          call fuel (textOf name) arguments
          throw (.exit (← get).status)
      | _ =>
        match Program.find s.files s.directory s.searchPath name with
        | .ok program =>
          ShellM.subshell (program.run (Command.run fuel) name arguments)
        | .error .permissionDenied => ShellM.refuse (name ++ ": Permission denied") 126
        | .error _ => ShellM.refuse (name ++ ": not found") 127

end

end Upkeep.Shell
