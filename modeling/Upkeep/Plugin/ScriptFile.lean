import Upkeep.Plugin.Script
import Upkeep.Yaml.Reading

/-!
# Script files — the declarations of script plugins

A script file is a document with a list of declarations. A declaration's command is taken as it is
written. Its attributes are taken by what they mean: a name that reads as a number is no name. All
that a declaration holds besides has to mean something, but counts for nothing.
-/

namespace Upkeep

/-- What a node means as an attribute. -/
inductive Attributed where
  | null
  | text (s : String)
  | list (items : List Attributed)
  /-- A truth value, a number or a mapping. -/
  | other

namespace Attributed

/-- What a node means, its members with it. -/
def ofNode : Nat → Yaml.Node → Yaml.Reading Attributed
  | depth, node => do
    match ← (Yaml.Place.mk node depth).followed, depth with
    | .scalar _ tag style s, _ =>
      match Yaml.Meaning.ofScalar tag style s with
      | some .null => return .null
      | some .itself => return .text s
      | some .tooLarge | none => failure
      | some _ => return .other
    | .sequence _ tag items, depth + 1 =>
      if Yaml.Place.dataAt.isLocal tag then failure
      return .list (← items.mapM (ofNode depth))
    | .mapping _ tag entries, depth + 1 =>
      if Yaml.Place.dataAt.isLocal tag then failure
      for (key, value) in entries do
        let _ ← ofNode depth key
        let _ ← ofNode depth value
      return .other
    | _, _ => failure

/-- The text that an attribute is. -/
def asText : Attributed → Option String
  | .text s => some s
  | _ => none

/-- The text that an attribute is, if it is given. -/
def textOption : Attributed → Option (Option String)
  | .null => some none
  | meaning => meaning.asText.map some

/-- The set of names that an attribute is, if it is given. -/
def namesOption : Attributed → Option (Option Names)
  | .null => some none
  | .list items => (items.mapM asText).map fun names => some (Names.ofList names)
  | _ => none

end Attributed

namespace Script

/-- The manifest with an attribute set, if it is one and fits. -/
def putAttribute (manifest : Manifest) (name : String) (meaning : Attributed) : Option Manifest :=
  match name with
  | "name" => return { manifest with name := ← meaning.textOption }
  | "platforms" => return { manifest with platforms := ← meaning.namesOption }
  | "phases" => return { manifest with phases := ← meaning.namesOption }
  | "os" => return { manifest with os := ← meaning.namesOption }
  | "description" => return { manifest with description := ← meaning.textOption }
  | _ => some manifest

/-- The script with an entry of its declaration. -/
def putEntry (script : Script) (name : String) (place : Yaml.Place) : Yaml.Reading Script := do
  match name with
  | "command" => return { script with command := ← place.text }
  | "timeout" =>
    return { script with limitSecs := ← Yaml.Place.optional (Yaml.Place.natural 64) place }
  | _ =>
    let meaning ← Attributed.ofNode place.depth place.node
    match putAttribute script.manifest name meaning with
    | some manifest => return { script with manifest }
    | none => failure

/-- The entries of a declaration that may come only once. -/
def entryNames : List String :=
  ["command", "timeout", "name", "platforms", "phases", "os", "description"]

/-- A script from its declaration. -/
def read (place : Yaml.Place) : Yaml.Reading Script := do
  let step (state : Script × List String) (entry : Yaml.Place × Yaml.Place) :
      Yaml.Reading (Script × List String) := do
    let name ← entry.1.text
    if entryNames.contains name && state.2.contains name then failure
    return (← putEntry state.1 name entry.2, name :: state.2)
  return (← (← place.entries).foldlM step ({}, [])).1

/-- The scripts that a file declares. -/
def readFile (place : Yaml.Place) : Yaml.Reading (List Script) :=
  Yaml.Place.record ⟨"struct ScriptFile", [("plugins", false)]⟩
    (fun _ _ place => do (← place.items).mapM read) [] place

/-- Why the scripts of a file cannot be had. -/
inductive LoadError where
  | unreadable (path : String) (error : IoError)
  | malformed (path : String)
  deriving DecidableEq, Repr

/-- The complaint about a script file. -/
def LoadError.message : LoadError → String
  | .unreadable path _ => "failed to read " ++ quotedPath path
  | .malformed path => "failed to parse YAML " ++ quotedPath path

/-- The scripts that the file at a path declares. -/
def load (files : Files) (path : String) : Except LoadError (List Script) :=
  match files.readText path with
  | .error e => .error (.unreadable path e)
  | .ok text =>
    match Yaml.readText readFile text.toList with
    | some scripts => .ok scripts
    | none => .error (.malformed path)

end Script

end Upkeep
