import Upkeep.Text.Utf8

/-!
# Files — a directory tree and how it can refuse

A file tree holds the directories and files below one root, which is the working directory as
well. Names are resolved step by step, so a missing or misplaced directory on the way is an error
of its own. Every operation either succeeds or gives the reason a system would give.
-/

namespace Upkeep

/-- Why the system refuses. -/
inductive IoError where
  | notFound
  | alreadyExists
  | notDirectory
  | isDirectory
  | nameTooLong
  | permissionDenied
  | notExecutable
  | brokenPipe
  /-- A file that should be text is not. -/
  | notText
  /-- A path with a null character. -/
  | nullInPath
  /-- A command with a null character. -/
  | nullInCommand
  /-- Any other reason, in words. -/
  | other (text : String)
  deriving DecidableEq, Repr

/-- The reason in words. -/
def IoError.message : IoError → String
  | .notFound => "No such file or directory (os error 2)"
  | .alreadyExists => "File exists (os error 17)"
  | .notDirectory => "Not a directory (os error 20)"
  | .isDirectory => "Is a directory (os error 21)"
  | .nameTooLong => "File name too long (os error 36)"
  | .permissionDenied => "Permission denied (os error 13)"
  | .notExecutable => "Exec format error (os error 8)"
  | .brokenPipe => "Broken pipe (os error 32)"
  | .notText => "stream did not contain valid UTF-8"
  | .nullInPath => "file name contained an unexpected NUL byte"
  | .nullInCommand => "nul byte found in provided data"
  | .other text => text

/-- A file or a directory. -/
inductive FileNode where
  | directory
  | file (content : Bytes) (executable : Bool)
  deriving DecidableEq, Repr

/-- The directories and files below a root, by their names from the root on. -/
structure Files where
  /-- The absolute path of the root. -/
  root : String
  nodes : List (List String × FileNode) := []

/-- A path below another one; an absolute path stands for itself. -/
def joinPath (base name : String) : String :=
  if name.startsWith "/" || base.isEmpty then name
  else if base.endsWith "/" then base ++ name
  else base ++ "/" ++ name

/-- The names of a path, first one first. -/
def pathNames (path : String) : List String :=
  ((path.toList.splitOn '/').map String.ofList).filter (· ≠ "")

namespace Files

/-- The node with the given names; the root is a directory. -/
def node? (files : Files) (names : List String) : Option FileNode :=
  if names.isEmpty then some .directory
  else (files.nodes.find? (·.1 = names)).map (·.2)

/-- The tree with a node put at the given names. -/
def put (files : Files) (names : List String) (node : FileNode) : Files :=
  if files.nodes.any (·.1 = names) then
    { files with nodes := files.nodes.map fun entry =>
        if entry.1 = names then (names, node) else entry }
  else { files with nodes := files.nodes ++ [(names, node)] }

/-- Follows names from a directory on; all but the last one have to be directories. -/
def walk (files : Files) : List String → List String → Except IoError (List String)
  | here, [] => .ok here
  | here, name :: rest =>
    match files.node? here with
    | none => .error .notFound
    | some (.file _ _) => .error .notDirectory
    | some .directory =>
      if name = "." then walk files here rest
      else if name = ".." then walk files here.dropLast rest
      else if 255 < name.utf8ByteSize then .error .nameTooLong
      else walk files (here ++ [name]) rest

/-- The names that a path leads to. Paths elsewhere are not there. -/
def resolve (files : Files) (path : String) : Except IoError (List String) :=
  if path.contains '\x00' then .error .nullInPath
  else if path.isEmpty then .error .notFound
  else if path = files.root then .ok []
  else if path.startsWith (files.root ++ "/") then
    files.walk [] (pathNames (String.ofList (path.toList.drop files.root.length)))
  else if path.startsWith "/dev/null/" then .error .notDirectory
  else if path.startsWith "/" then .error .notFound
  else files.walk [] (pathNames path)

/-- Whether a path leads to a directory. -/
def isDirectory (files : Files) (path : String) : Bool :=
  match files.resolve path with
  | .ok names => files.node? names = some .directory
  | .error _ => false

/-- Creates one directory. -/
def makeDirectory (files : Files) (path : String) : Except IoError Files := do
  let names ← files.resolve path
  match files.node? names with
  | some _ => .error .alreadyExists
  | none => .ok (files.put names .directory)

/-- The path without its last name; none if there is no name left. -/
def parentPath? (path : String) : Option String :=
  let rooted := path.startsWith "/"
  match (pathNames path).reverse with
  | [] => none
  | _ :: outer =>
    let outer := "/".intercalate outer.reverse
    some (if rooted then "/" ++ outer else outer)

/-- Creates a directory and those above it that are missing. One that is there already is fine. A
path has as many names above it as it has characters at most, which is the fuel. -/
def makeDirectories (files : Files) (path : String) : Except IoError Files :=
  go path.length files path
where
  go : Nat → Files → String → Except IoError Files
    | 0, files, _ => .ok files
    | fuel + 1, files, path =>
      if path.isEmpty then .ok files
      else
        let again (files : Files) (path : String) : Except IoError Files :=
          match files.makeDirectory path with
          | .ok files => .ok files
          | .error e => if files.isDirectory path then .ok files else .error e
        match files.makeDirectory path with
        | .ok files => .ok files
        | .error .notFound =>
          match parentPath? path with
          | none => .error .notFound
          | some parent => do
            let files ← go fuel files parent
            again files path
        | .error e => if files.isDirectory path then .ok files else .error e

/-- Opens a file for writing: the names it has. -/
def openForWriting (files : Files) (path : String) : Except IoError (List String × Bytes × Bool) :=
  do
    let names ← files.resolve path
    match files.node? names with
    | some .directory => .error .isDirectory
    | some (.file content executable) => .ok (names, content, executable)
    | none => .ok (names, [], false)

/-- Writes a file anew. -/
def write (files : Files) (path : String) (content : Bytes) : Except IoError Files := do
  let (names, _, executable) ← files.openForWriting path
  .ok (files.put names (.file content executable))

/-- Writes behind what a file holds, which may be nothing. -/
def append (files : Files) (path : String) (content : Bytes) : Except IoError Files := do
  let (names, old, executable) ← files.openForWriting path
  .ok (files.put names (.file (old ++ content) executable))

/-- The bytes of a file. -/
def read (files : Files) (path : String) : Except IoError Bytes := do
  let names ← files.resolve path
  match files.node? names with
  | some (.file content _) => .ok content
  | some .directory => .error .isDirectory
  | none => .error .notFound

/-- The text of a file. -/
def readText (files : Files) (path : String) : Except IoError String := do
  match decodeUtf8? (← files.read path) with
  | some text => .ok (String.ofList text)
  | none => .error .notText

/-- All files with their contents, by their path below the root. -/
def contents (files : Files) : List (String × Bytes) :=
  files.nodes.filterMap fun (names, node) =>
    match node with
    | .file content _ => some ("/".intercalate names, content)
    | .directory => none

end Files

end Upkeep
