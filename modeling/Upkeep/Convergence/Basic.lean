import Upkeep.Convergence.Inventory
import Upkeep.Session.Basic

/-!
# Convergence — waiting until a device is back

After a reload the session is dropped, the device is given time to boot, and the session is made
anew. Then the device is polled until a probe finds all of its nodes up. Two bounds end the wait:
the number of polls, and the sum of the intervals before them, which has to stay below the overall
limit. A poll that is not answered in time counts like one that finds a node down.
-/

namespace Upkeep

/-- The times and the command of a wait for convergence. -/
structure ConvergenceCheck where
  /-- From dropping the session to making it anew. -/
  warmup : Duration := .ofSecs 1500
  /-- From then to the first interval. -/
  settle : Duration := .ofSecs 30
  /-- Before each poll. -/
  pollInterval : Duration := .ofSecs 30
  maxAttempts : Nat := 20
  /-- What the intervals may not sum up to. -/
  overallLimit : Duration := .ofSecs 3600
  statusCommand : String := "show platform"
  /-- For the answer to one poll. -/
  commandLimit : Duration := .ofSecs 600
  deriving DecidableEq, Repr

/-- How a device's status is read and judged. -/
structure Probe where
  read : Text → Inventory
  accepts : Node → Bool

/-- The probe for the table of slots. -/
def Probe.platform : Probe := ⟨Inventory.ofTable, Node.isAccepted⟩

/-- What a wait for convergence tells when it succeeds. -/
structure ConvergenceReport where
  /-- From dropping the session to the end of the last poll. -/
  elapsed : Duration
  attempts : Nat
  deriving DecidableEq, Repr

/-- Why a wait for convergence fails. -/
inductive ConvergenceError where
  | notConverged (attempts : Nat) (lastOutput : Option Text)
  | session (error : SessionError)
  deriving DecidableEq, Repr

/-- The failure in words. -/
def ConvergenceError.message : ConvergenceError → String
  | .notConverged attempts lastOutput =>
    "not all nodes came up after " ++ toString attempts ++ " poll(s): " ++
      match lastOutput with
      | some output => String.ofList output
      | none => "<no output>"
  | .session error => error.message

namespace Convergence

variable {σ : Type} [Session σ]

/-- Tells the operator and the log. -/
def announce (message : String) : LinkM ConvergenceError σ Unit :=
  Link.onHost fun host => (host.postStatus message).log .info message

/-- Drops the session, waits for the boot and makes the session anew. -/
def restart (check : ConvergenceCheck) : LinkM ConvergenceError σ Unit := do
  Link.mapError .session (Link.call Session.disconnect)
  announce "Waiting for device boot to reconnect"
  Link.onHost (·.sleep check.warmup)
  Link.mapError .session (Link.call (Session.reconnect true))
  Link.log .info "Device connected successfully"
  announce "Waiting for all nodes to come up"
  Link.onHost (·.sleep check.settle)

/-- One poll: the device's output, or the end of what came of it in time. -/
def poll (check : ConvergenceCheck) (attempt : Nat) :
    LinkM ConvergenceError σ (Except Text Text) := do
  Link.onHost (·.sleep check.pollInterval)
  match ← Link.attempt (Link.command check.statusCommand check.commandLimit) with
  | .ok output =>
    Link.log .debug (check.statusCommand ++ " = " ++ String.ofList output)
    return .ok output
  | .error (.timeout _ tail) =>
    Link.log .warn ("'" ++ check.statusCommand ++ "' timed out (attempt " ++ toString attempt ++
      ")")
    return .error tail
  | .error error => throw (.session error)

/-- Polls until the probe is content. The first number counts the polls that may still be made and
the second one those that were made; `waited` sums up the intervals and `last` is the output of
the last poll. The result is the number of polls. -/
def pollUntil (check : ConvergenceCheck) (probe : Probe) :
    Nat → Nat → Duration → Option Text → LinkM ConvergenceError σ Nat
  | 0, attempts, _, last => throw (.notConverged attempts last)
  | left + 1, attempts, waited, last =>
    let waited := waited + check.pollInterval
    if check.overallLimit ≤ waited then throw (.notConverged attempts last)
    else do
      match ← poll check (attempts + 1) with
      | .ok output =>
        if Inventory.converged probe.accepts (probe.read output) then return attempts + 1
        else pollUntil check probe left (attempts + 1) waited (some output)
      | .error tail => pollUntil check probe left (attempts + 1) waited (some tail)

/-- Restarts the session and polls the device until all of its nodes are up. -/
def await (check : ConvergenceCheck) (probe : Probe) :
    LinkM ConvergenceError σ ConvergenceReport := do
  let start := (← get).host.clock
  restart check
  let attempts ← pollUntil check probe check.maxAttempts 0 .zero none
  let elapsed : Duration := ⟨(← get).host.clock.nanos - start.nanos⟩
  Link.log .info "All nodes in desired state"
  Link.log .info ("Overall outage time: " ++ toString (elapsed.secs / 60) ++ " minute(s) " ++
    toString (elapsed.secs % 60) ++ " second(s)")
  return ⟨elapsed, attempts⟩

end Convergence

end Upkeep
