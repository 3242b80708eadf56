import Std.Time.DateTime
import Upkeep.CommandLine.Execution
import Upkeep.Shell.Child

/-!
# The program

The program works on a copy of the directory it is started in, and writes back what has changed.
Client programs and commands are run by the shell of this library, which looks for programs in
`bin`.
-/

namespace Upkeep

/-- The directories and files among the entries of a directory, with all that is below them. -/
partial def gather (names : List String) (entries : Array IO.FS.DirEntry) :
    IO (List (List String × FileNode)) := do
  let mut nodes : List (List String × FileNode) := []
  for entry in entries do
    let here := names ++ [entry.fileName]
    if ← entry.path.isDir then
      nodes := nodes ++ (here, .directory) :: (← gather here (← entry.path.readDir))
    else
      let bytes ← IO.FS.readBinFile entry.path
      nodes := nodes ++ [(here, .file bytes.toList (names = ["bin"]))]
  return nodes

/-- Writes the files that are new or have changed. -/
def writeBack (before after : Files) : IO Unit := do
  for (names, node) in after.nodes do
    if before.node? names ≠ some node then
      let path := "/".intercalate (after.root :: names)
      match node with
      | .directory => IO.FS.createDirAll path
      | .file content _ => IO.FS.writeBinFile path ⟨content.toArray⟩

/-- A random name in the form of a universally unique identifier. -/
def randomName : IO String := do
  let digits (n : Nat) : IO String := do
    let mut text := ""
    for _ in [0:n] do
      text := text.push (Nat.digitChar (← IO.rand 0 15))
    return text
  return (← digits 8) ++ "-" ++ (← digits 4) ++ "-4" ++ (← digits 3) ++ "-a" ++ (← digits 3) ++
    "-" ++ (← digits 12)

/-- Reads the command line, carries it out and says how it has ended. -/
def start (words : List String) : IO UInt32 := do
  let directory ← IO.currentDir
  let root := toString directory
  let now ← Std.Time.Timestamp.now
  let files : Files := { root, nodes := ← gather [] (← directory.readDir) }
  let surroundings : Surroundings Shell.Child :=
    { launch := Shell.launcher [joinPath root "bin"]
      runner := Shell.commandRunner [joinPath root "bin"]
      runName := ← randomName
      epoch := ⟨.ofSecs now.toSecondsSinceUnixEpoch.val.toNat⟩ }
  match CommandLine.run surroundings words files with
  | .error .help =>
    IO.print CommandLine.usage
    return 0
  | .error error =>
    IO.eprint ("error: " ++ error.message ++ "\n\n" ++ CommandLine.usage)
    return 2
  | .ok ending =>
    writeBack files ending.files
    IO.print ending.output
    IO.eprint ending.complaint
    return ending.exitCode.toUInt32

end Upkeep

/-- The entry of the program. -/
def main (words : List String) : IO UInt32 := Upkeep.start words
