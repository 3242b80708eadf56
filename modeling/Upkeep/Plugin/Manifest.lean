import Upkeep.Data.Source
import Upkeep.Text.Blank

/-!
# Manifests and descriptors — what a plugin says about itself

A manifest is a plugin's own declaration and may leave things out. A descriptor is a complete one:
`Manifest.describe` gives it or names the first attribute that is missing.
-/

namespace Upkeep

/-- What a plugin declares. -/
structure Manifest where
  name : Option String := none
  platforms : Option Names := none
  phases : Option Names := none
  os : Option Names := none
  description : Option String := none
  deriving DecidableEq, Repr

/-- A complete declaration. No platforms or no systems stand for all of them; a plugin without
phases is for none. -/
structure Descriptor where
  name : String
  platforms : Names
  phases : Names
  os : Names
  description : String
  deriving DecidableEq, Repr

/-- The attributes a declaration cannot do without. -/
inductive Attribute where
  | name
  | phases
  | platforms
  | os
  deriving DecidableEq, Repr

/-- The attribute's name. -/
def Attribute.label : Attribute → String
  | .name => "name"
  | .phases => "phases"
  | .platforms => "platforms"
  | .os => "os"

/-- The complaint about a missing attribute. -/
def Attribute.missingMessage (missing : Attribute) : String :=
  "attribute '" ++ missing.label ++ "' missing"

namespace Manifest

/-- A manifest with a name that is for all platforms, all systems and no phase. -/
def named (name : String) : Manifest :=
  { name := some name, platforms := some {}, phases := some {}, os := some {} }

/-- The manifest for some platforms. -/
def forPlatforms (manifest : Manifest) (platforms : List String) : Manifest :=
  { manifest with platforms := some (Names.ofList platforms) }

/-- The manifest for some phases. -/
def forPhases (manifest : Manifest) (phases : List String) : Manifest :=
  { manifest with phases := some (Names.ofList phases) }

/-- The manifest for some systems. -/
def forOs (manifest : Manifest) (os : List String) : Manifest :=
  { manifest with os := some (Names.ofList os) }

/-- The manifest with a description. -/
def describedAs (manifest : Manifest) (description : String) : Manifest :=
  { manifest with description := some description }

/-- The descriptor of a complete manifest, or the first attribute that it lacks. The name is taken
without the blanks around it and is missing if nothing is left. -/
def describe (manifest : Manifest) : Except Attribute Descriptor := do
  let name := trimmed (manifest.name.getD "")
  if name = "" then throw .name
  let phases ← manifest.phases.elim (throw .phases) pure
  let platforms ← manifest.platforms.elim (throw .platforms) pure
  let os ← manifest.os.elim (throw .os) pure
  return { name, platforms, phases, os, description := manifest.description.getD "" }

/-- The fields of a manifest. -/
def shape : RecordShape where
  label := "struct PluginManifest"
  fields := [("name", true), ("platforms", true), ("phases", true), ("os", true),
    ("description", true)]

/-- The manifest with a field read from a document. -/
def put [Monad m] [Source ν m] (manifest : Manifest) (field : String) (node : ν) : m Manifest :=
  match field with
  | "name" => return { manifest with name := ← Source.textOption node }
  | "platforms" => return { manifest with platforms := ← Source.optional Source.names node }
  | "phases" => return { manifest with phases := ← Source.optional Source.names node }
  | "os" => return { manifest with os := ← Source.optional Source.names node }
  | "description" => return { manifest with description := ← Source.textOption node }
  | _ => return manifest

/-- A manifest from a document. -/
def read [Monad m] [Source ν m] (node : ν) : m Manifest := Source.record shape put {} node

/-- A set of names as data, or null. -/
def namesData : Option Names → Data
  | some names => .texts names.toList
  | none => .null

/-- The manifest as data. -/
def toData (manifest : Manifest) : Data :=
  .ofFields [("name", .textOrNull manifest.name), ("platforms", namesData manifest.platforms),
    ("phases", namesData manifest.phases), ("os", namesData manifest.os),
    ("description", .textOrNull manifest.description)]

end Manifest

/-- The descriptor as data. -/
def Descriptor.toData (descriptor : Descriptor) : Data :=
  .ofFields [("name", .text descriptor.name), ("platforms", .texts descriptor.platforms.toList),
    ("phases", .texts descriptor.phases.toList), ("os", .texts descriptor.os.toList),
    ("description", .text descriptor.description)]

end Upkeep
