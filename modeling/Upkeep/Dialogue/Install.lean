import Upkeep.Dialogue.Basic

/-!
# Dialogues of an activation

Before new software is activated the configuration is saved. Then the device is reloaded, or it is
upgraded while it stays in service, stage by stage. `writeMemory`, `reload` and `inService` are
the tables of these three.
-/

namespace Upkeep

namespace Dialogue

/-- Saving the configuration: a question that may come, the `[OK]`, and the next prompt. -/
def writeMemory (prompt : Pattern) : Dialogue :=
  let overwrite := "Overwrite the previous NVRAM configuration\\?\\[confirm\\]"
  let built := "\\[OK\\]"
  let limit := Duration.ofSecs 1200
  { name := "write memory"
    events := [.ofText overwrite, .ofText built, prompt]
    transitions := [
      { event := overwrite, sources := [0], next := 1, action := some sendNewline, limit },
      { event := built, sources := [0, 1], next := 2, limit },
      { event := prompt.text, sources := [2], next := final }]
    limit }

/-- The reload: a question about unsaved changes that may come, and the confirmation. -/
def reload : Dialogue :=
  let save := "System configuration has been modified\\. Save\\? \\[yes/no\\]:"
  let proceed := "Proceed with reload\\? \\[confirm\\]"
  let refuse (_ : Firing) : Response := { effects := [.send "no"] }
  { name := "reload"
    events := [.ofText save, .ofText proceed]
    transitions := [
      { event := save, sources := [0], next := 1, action := some refuse },
      { event := proceed, sources := [0, 1], next := final, action := some sendNewline }]
    limit := .ofSecs 1200 }

/-- The upgrade in service. State `n + 1` is stage `n`. An error ends it from everywhere; a closed
connection is taken for the reload of the processor that the session is on. -/
def inService : Dialogue :=
  let diskCheck := "Starting disk space verification"
  let stageOne := "STAGE 1: Installing software on standby RP"
  let stageTwo := "STAGE 2: Restarting standby RP"
  let stageThree := "STAGE 3: Installing sipspa package on local RP"
  let stageFour := "STAGE 4: Installing software on active RP"
  let provisioned := "SUCCESS: Software provisioned\\.\\s+New software will load on reboot"
  let notBooted := "SYSTEM IS NOT BOOTED VIA PACKAGE FILE"
  let failed := "FAILED:.*"
  let closed := "Connection closed by foreign host"
  let limit := Duration.ofSecs 1800
  let everywhere : List Int := [0, 1, 2, 3, 4, 5]
  let refuse (_ : Firing) : Response :=
    { effects := [.warn "Error in ISSU. Please see session.log for details"], accepts := false }
  let tolerate (_ : Firing) : Response :=
    { effects := [.warn "Unexpected connection closed by foreign host during ISSU"] }
  { name := "ISSU"
    events := [diskCheck, stageOne, stageTwo, stageThree, stageFour, provisioned, notBooted,
      failed, closed].map .ofText
    transitions := [
      { event := diskCheck, sources := [0], next := 1, limit },
      { event := stageOne, sources := [0, 1], next := 2, limit },
      { event := stageTwo, sources := [2], next := 3, limit },
      { event := stageThree, sources := [3], next := 4, limit },
      { event := stageFour, sources := [4], next := 5, limit },
      { event := provisioned, sources := [5], next := final },
      { event := notBooted, sources := everywhere, next := final, action := some refuse },
      { event := failed, sources := everywhere, next := final, action := some reportError },
      { event := closed, sources := [1, 2, 3, 4], next := final, action := some tolerate }]
    limit := .ofSecs 4200 }

end Dialogue

end Upkeep
