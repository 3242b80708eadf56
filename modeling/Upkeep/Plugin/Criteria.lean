import Upkeep.Plugin.Manifest

/-!
# Criteria — which plugins are eligible

Criteria ask for a platform, a system, phases and names; what they leave open asks for nothing.
`Criteria.admits` decides whether a descriptor meets them.
-/

namespace Upkeep

/-- What a plugin has to be for. -/
structure Criteria where
  platform : Option String := none
  /-- Phases that all have to be declared. -/
  phases : Option Names := none
  os : Option String := none
  /-- Names of which the plugin has to have one. -/
  names : Option Names := none
  deriving DecidableEq, Repr

namespace Criteria

/-- A set of names as a demand; no names demand nothing. -/
def demand (names : List String) : Option Names :=
  if names.isEmpty then none else some (Names.ofList names)

/-- The criteria for one phase. -/
def forPhase (criteria : Criteria) (phase : String) : Criteria :=
  { criteria with phases := some (Names.ofList [phase]) }

/-- The criteria for several phases at once; no phases leave the phase open. -/
def forPhases (criteria : Criteria) (phases : List String) : Criteria :=
  { criteria with phases := demand phases }

/-- The criteria for some names; no names leave the name open. -/
def forNames (criteria : Criteria) (names : List String) : Criteria :=
  { criteria with names := demand names }

/-- Whether a set of platforms or systems covers the one asked for. An empty set covers all. -/
def covers (declared : Names) : Option String → Bool
  | none => true
  | some wanted => declared.isEmpty || declared.contains wanted

/-- Whether a descriptor meets the criteria. -/
def admits (criteria : Criteria) (descriptor : Descriptor) : Bool :=
  covers descriptor.platforms criteria.platform &&
  (match criteria.phases with
    | none => true
    | some phases => phases.toList.all descriptor.phases.contains) &&
  (match criteria.names with
    | none => true
    | some names => names.contains descriptor.name) &&
  covers descriptor.os criteria.os

end Criteria

end Upkeep
