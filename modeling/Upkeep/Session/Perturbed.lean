import Upkeep.Session.Basic

/-!
# Perturbed sessions — a session that fails or lags on purpose

A perturbed session passes calls on to another one. Chosen calls fail instead, without reaching
it: the first, second, … call of a kind, failed ones counted. Waits that are passed on lag.
-/

namespace Upkeep

/-- The kinds of session calls that can be made to fail. -/
inductive CallKind where
  | connect
  | disconnect
  | reconnect
  | send
  | expect
  deriving DecidableEq, Repr

/-- The failure of one call: the `nth` of its kind, counted from 1. -/
structure Fault where
  kind : CallKind
  nth : Nat
  error : SessionError

/-- A session with faults and a lag. -/
structure Perturbed (σ : Type) where
  inner : σ
  faults : List Fault := []
  lag : Duration := .zero
  /-- The calls made so far. -/
  made : List CallKind := []

namespace Perturbed

variable {σ α : Type}

/-- The fault of the next call of a kind. -/
def fault? (session : Perturbed σ) (kind : CallKind) : Option SessionError :=
  let nth := session.made.count kind + 1
  (session.faults.find? fun fault => fault.kind = kind && fault.nth = nth).map (·.error)

/-- Passes a call on, unless it is one that fails. -/
def pass (kind : CallKind) (lag : Duration) (f : σ → Files → Outcome σ α)
    (session : Perturbed σ) (files : Files) : Outcome (Perturbed σ) α :=
  let counted := { session with made := session.made ++ [kind] }
  match session.fault? kind with
  | some error => ⟨.error error, counted, files, .zero, []⟩
  | none =>
    let outcome := f session.inner files
    ⟨outcome.result, { counted with inner := outcome.next }, outcome.files,
      lag + outcome.elapsed, outcome.records⟩

instance [Session σ] : Session (Perturbed σ) where
  connect := pass .connect .zero Session.connect
  disconnect := pass .disconnect .zero Session.disconnect
  reconnect forced := pass .reconnect .zero (Session.reconnect forced)
  isConnected session := Session.isConnected session.inner
  send line := pass .send .zero (Session.send line)
  expect patterns limit session :=
    pass .expect session.lag (Session.expect patterns limit) session
  prompt session := Session.prompt session.inner

end Perturbed

end Upkeep
