/-!
# Phases — the steps of an install

Plugins declare the phases they are for, and a job asks for one of them. Phases that change the
device's software are preceded by a pass that only checks.
-/

namespace Upkeep

/-- The phases a plugin may declare. -/
def installPhases : List String :=
  ["Pre-Check", "Pre-Add", "Add", "Pre-Activate", "Activate", "Pre-Deactivate", "Deactivate",
    "Pre-Remove", "Remove", "Remove All Inactive", "Commit", "Get-Inventory", "Migration-Audit",
    "Pre-Migrate", "Migrate", "Post-Migrate", "Post-Check", "FPD-Upgrade"]

/-- The phases that get a preparatory pass. -/
def preparedPhases : List String := ["Add", "Activate", "Deactivate"]

/-- Whether a phase is one of those that exist. -/
def isKnownPhase (phase : String) : Bool := installPhases.contains phase

/-- The phase of the preparatory pass before a phase, if it gets one. -/
def preparatoryPhase? (phase : String) : Option String :=
  if preparedPhases.contains phase then some ("Pre-" ++ phase) else none

end Upkeep
