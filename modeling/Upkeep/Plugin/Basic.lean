import Upkeep.Job.Task
import Upkeep.Plugin.Manifest

/-!
# Plugins and registries

A plugin declares what it is for, says whether it talks to the device, and has a task for its job.
A registry lists the installed plugins, each with an id of its own.
-/

namespace Upkeep

/-- A maintenance action for jobs over sessions of type `σ`. -/
structure Plugin (σ : Type) where
  manifest : Manifest
  /-- Whether the session has to be connected when the plugin starts; else it must not be. -/
  needsConnection : Bool := true
  task : Task σ Unit

/-- An installed plugin. -/
structure RegistryEntry (σ : Type) where
  id : String
  plugin : Plugin σ

/-- The installed plugins in the order in which they were registered. -/
abbrev Registry (σ : Type) := List (RegistryEntry σ)

end Upkeep
