import Upkeep.Plugin.Basic
import Upkeep.Plugin.Criteria

/-!
# Catalogs — the plugins a job can use

A catalog is made by one pass over a registry. It keeps the plugins whose manifest is complete and
that meet the criteria; of several with one name it keeps the first. What it leaves out for other
reasons than the criteria it complains about. Beside the entries it has their places by their
names and their names by their ids, and a look-up goes there.
-/

namespace Upkeep

/-- A plugin that a catalog has kept. -/
structure CatalogEntry (σ : Type) where
  id : String
  descriptor : Descriptor
  plugin : Plugin σ

/-- The eligible plugins in the order of the registry, with the ways to find them. -/
structure Catalog (σ : Type) where
  entries : List (CatalogEntry σ) := []
  /-- The places of the entries, counted from 0, by their names. -/
  placeByName : List (String × Nat) := []
  /-- The names of the entries by their ids. -/
  nameById : List (String × String) := []

/-- A complaint about a plugin that a catalog leaves out. -/
inductive Complaint where
  | incomplete (id : String) (missing : Attribute)
  | duplicate (id name : String)
  deriving DecidableEq, Repr

/-- The complaint in words. -/
def Complaint.message : Complaint → String
  | .incomplete id missing =>
    "Attribute '" ++ missing.label ++ "' missing in plugin: " ++ id
  | .duplicate id name =>
    "Duplicate plugin name '" ++ name ++ "' in: " ++ id ++ "; keeping the first one"

namespace Catalog

variable {σ : Type}

/-- The entry with a name. -/
def get? (catalog : Catalog σ) (name : String) : Option (CatalogEntry σ) :=
  (Fields.get? name catalog.placeByName).bind fun place => catalog.entries[place]?

/-- The name of the entry with an id; of several with one id, the last one counts. -/
def nameForId? (catalog : Catalog σ) (id : String) : Option String :=
  Fields.get? id catalog.nameById

/-- Whether there is a place for the name. -/
def has (catalog : Catalog σ) (name : String) : Bool :=
  (Fields.get? name catalog.placeByName).isSome

/-- The catalog with one entry more. -/
def keep (catalog : Catalog σ) (entry : CatalogEntry σ) : Catalog σ where
  entries := catalog.entries ++ [entry]
  placeByName := Fields.insert entry.descriptor.name catalog.entries.length catalog.placeByName
  nameById := Fields.insert entry.id entry.descriptor.name catalog.nameById

/-- The entries that also meet other criteria. -/
def select (catalog : Catalog σ) (criteria : Criteria) : List (CatalogEntry σ) :=
  catalog.entries.filter fun entry => criteria.admits entry.descriptor

/-- What becomes of a registry entry when `kept` are the entries kept before it: it is kept, it is
complained about, or it does not meet the criteria. -/
def consider (criteria : Criteria) (kept : Catalog σ) (entry : RegistryEntry σ) :
    Except (Option Complaint) (CatalogEntry σ) :=
  match entry.plugin.manifest.describe with
  | .error missing => .error (some (.incomplete entry.id missing))
  | .ok descriptor =>
    if !criteria.admits descriptor then .error none
    else if kept.has descriptor.name then
      .error (some (.duplicate entry.id descriptor.name))
    else .ok ⟨entry.id, descriptor, entry.plugin⟩

/-- One step of the pass: the catalog and the complaints after one more entry. -/
def step (criteria : Criteria) (state : Catalog σ × List Complaint) (entry : RegistryEntry σ) :
    Catalog σ × List Complaint :=
  match consider criteria state.1 entry with
  | .ok kept => (state.1.keep kept, state.2)
  | .error (some complaint) => (state.1, state.2 ++ [complaint])
  | .error none => state

/-- The catalog of a registry for some criteria, with the complaints. -/
def scan (registry : Registry σ) (criteria : Criteria) : Catalog σ × List Complaint :=
  registry.foldl (step criteria) ({}, [])

/-- The catalog of a registry for some criteria; the job is warned of the complaints. -/
def build (registry : Registry σ) (criteria : Criteria) (job : Job σ) : Catalog σ × Job σ :=
  let (catalog, complaints) := scan registry criteria
  (catalog, complaints.foldl (fun job complaint => job.warn complaint.message) job)

end Catalog

/-- How much a listing tells about each plugin. -/
inductive ListStyle where
  | brief
  | normal
  | detail
  deriving DecidableEq, Repr

/-- A set of names in a listing; no names stand for any. -/
def Names.listed (names : Names) : String :=
  if names.isEmpty then "any" else ", ".intercalate names.toList

/-- A plugin in a listing. -/
def Descriptor.listed (style : ListStyle) (descriptor : Descriptor) : String :=
  match style with
  | .brief => descriptor.name
  | .normal => "[" ++ descriptor.phases.listed ++ "] " ++ descriptor.name
  | .detail =>
    "Name: " ++ descriptor.name ++ "\nDescription: " ++ descriptor.description ++
      "\nPhases: " ++ descriptor.phases.listed ++ "\nPlatforms: " ++
      descriptor.platforms.listed ++ "\nOS: " ++ descriptor.os.listed ++ "\n"

/-- The listing of a catalog, one plugin after the other. -/
def Catalog.listing (style : ListStyle) (catalog : Catalog σ) : String :=
  String.join (catalog.entries.map fun entry => entry.descriptor.listed style ++ "\n")

end Upkeep
