import Mathlib.Data.List.Destutter
import Upkeep.Proofs.Job.Account
import Upkeep.Session.Perturbed
import Upkeep.Session.Replay

/-! # Suited sessions — connected if that is needed, and else not

    A plugin needs its session to be connected, or needs it not to be.  `suit`
    makes one call at most to bring this about: a connect if the session is
    disconnected, a disconnect if it is connected, and none if it suits as it is.
    If a session keeps to what its calls are called, it suits when `suit` has
    succeeded (`suit_connected`).

    A replayed session counts these calls.  Each time that a connection comes to
    be needed it is connected once, and once disconnected when it is no longer
    needed, so both counts grow by the number of blocks of needs in a row
    (`turns_blocks`). -/

namespace Upkeep

namespace Session

variable (σ : Type) [Session σ]

/-- A session that is connected when a connect has succeeded, and is not when a disconnect has. -/
structure Lawful : Prop where
  connected : ∀ (session : σ) files, (connect session files).result = .ok () →
    isConnected (connect session files).next = true
  disconnected : ∀ (session : σ) files, (disconnect session files).result = .ok () →
    isConnected (disconnect session files).next = false

variable {σ}

/-- Connects or disconnects a session if it does not suit the need. -/
def suit (needed : Bool) (session : σ) (files : Files) : Outcome σ Unit :=
  if isConnected session = needed then .done () session files
  else if needed then connect session files else disconnect session files

/-- A session that has been made to suit the need does so. -/
theorem suit_connected (lawful : Lawful σ) {needed : Bool} {session : σ} {files : Files}
    (h : (suit needed session files).result = .ok ()) :
    isConnected (suit needed session files).next = needed := by
  rw [suit] at h ⊢
  split
  · next hsame => exact hsame
  · next hother =>
    rw [if_neg hother] at h
    cases needed with
    | true => exact lawful.connected session files h
    | false => exact lawful.disconnected session files h

/-- **CALLS**: a session that is connected is never connected again, and one that is not is never
    disconnected. -/
theorem calls_suit (needed : Bool) (files : Files) (recorded : Recorded σ) :
    (suit needed recorded files).next.calls = recorded.calls ++
      match needed, isConnected recorded.session with
      | true, false => [.connect (connect recorded.session files).result]
      | false, true => [.disconnect (disconnect recorded.session files).result]
      | _, _ => [] := by
  have hsame : isConnected recorded = isConnected recorded.session := rfl
  rw [suit, hsame]
  cases needed with
  | true =>
      cases isConnected recorded.session with
      | true => exact (List.append_nil _).symm
      | false => rfl
  | false =>
      cases isConnected recorded.session with
      | true => rfl
      | false => exact (List.append_nil _).symm

/-- Letting go of a session is making it suit a job that needs no connection any more. -/
theorem letGo_eq (files : Files) (session : σ) :
    Job.letGo files session = (suit false session files).next := by
  rw [Job.letGo, suit]
  cases isConnected session with
  | true => rfl
  | false => rfl

end Session

/-! ## Kinds of sessions -/

/-- A replayed session keeps to what its calls are called. -/
theorem Replay.lawful : Session.Lawful Replay := ⟨fun _ _ _ => rfl, fun _ _ _ => rfl⟩

/-- So does a recorded one if the session beside the record does. -/
theorem Recorded.lawful {σ : Type} [Session σ] (h : Session.Lawful σ) :
    Session.Lawful (Recorded σ) :=
  ⟨fun recorded files => h.connected recorded.session files,
    fun recorded files => h.disconnected recorded.session files⟩

/-- So does a perturbed one if the session behind it does: a call that fails has not been made. -/
theorem Perturbed.lawful {σ : Type} [Session σ] (h : Session.Lawful σ) :
    Session.Lawful (Perturbed σ) := by
  have hpass (kind : CallKind) (f : σ → Files → Outcome σ Unit) (session : Perturbed σ)
      (files : Files) (hok : (pass kind .zero f session files).result = .ok ()) :
      (f session.inner files).result = .ok () ∧
        (pass kind .zero f session files).next.inner = (f session.inner files).next := by
    rw [pass] at hok ⊢
    split at hok
    · exact nomatch hok
    · exact ⟨hok, rfl⟩
  refine ⟨fun session files hok => ?_, fun session files hok => ?_⟩
  · obtain ⟨hinner, hnext⟩ := hpass .connect Session.connect session files hok
    show Session.isConnected (pass .connect .zero Session.connect session files).next.inner = true
    rw [hnext]
    exact h.connected _ _ hinner
  · obtain ⟨hinner, hnext⟩ := hpass .disconnect Session.disconnect session files hok
    show Session.isConnected (pass .disconnect .zero Session.disconnect session files).next.inner
      = false
    rw [hnext]
    exact h.disconnected _ _ hinner

/-! ## Counting -/

/-- Whether a session is connected, and how often it was connected and disconnected. -/
structure Gate where
  connected : Bool
  connects : Nat
  disconnects : Nat
  deriving DecidableEq, Repr

/-- The connection of a replayed session. -/
def Replay.gate (replay : Replay) : Gate :=
  ⟨replay.connected, replay.log.connects, replay.log.disconnects⟩

/-- The connection when it has been made to suit a need. -/
def Gate.turn (gate : Gate) (needed : Bool) : Gate :=
  if gate.connected = needed then gate
  else if needed then { gate with connected := true, connects := gate.connects + 1 }
  else { gate with connected := false, disconnects := gate.disconnects + 1 }

/-- A replayed session can always be made to suit, and counts what that takes. -/
theorem Replay.suit_gate (needed : Bool) (replay : Replay) (files : Files) :
    (Session.suit needed replay files).result = .ok () ∧
      (Session.suit needed replay files).next.gate = replay.gate.turn needed := by
  have hsame : Session.isConnected replay = replay.gate.connected := rfl
  rw [Session.suit, Gate.turn, hsame]
  split
  · exact ⟨rfl, rfl⟩
  · cases needed with
    | true => exact ⟨rfl, rfl⟩
    | false => exact ⟨rfl, rfl⟩

/-- The number of blocks of needs in a row: each of them is one entry when repetitions are left
    out. -/
def blocks (needs : List Bool) : Nat := (needs.destutter (· ≠ ·)).count true

/-- A block that begins here is no different from one that goes on behind a need of none. -/
theorem blocks_eq (needs : List Bool) :
    blocks needs = (needs.destutter' (· ≠ ·) false).count true := by
  cases needs with
  | nil => rfl
  | cons needed rest =>
      rw [blocks, List.destutter_cons']
      cases needed with
      | false => rw [List.destutter'_cons_neg rest (by simp)]
      | true =>
          rw [List.destutter'_cons_pos rest (by simp), List.count_cons_of_ne (by simp)]

/-- The turns for some needs, and the last one: a block that is under way has been counted as a
    connect already, and one that ends is counted as a disconnect as well. -/
theorem turns_count (needs : List Bool) (connected : Bool) (connects disconnects : Nat) :
    (needs.foldl Gate.turn ⟨connected, connects + connected.toNat, disconnects⟩).turn false
      = ⟨false, connects + (needs.destutter' (· ≠ ·) connected).count true,
          disconnects + (needs.destutter' (· ≠ ·) connected).count true⟩ := by
  induction needs generalizing connected connects disconnects with
  | nil =>
      cases connected with
      | true => rfl
      | false => rfl
  | cons needed rest ih =>
      cases connected with
      | true =>
          cases needed with
          | true =>
              rw [List.destutter'_cons_neg rest (by simp)]
              exact ih true connects disconnects
          | false =>
              -- the block ends here
              rw [List.destutter'_cons_pos rest (by simp), List.count_cons_self,
                Nat.add_comm _ 1, ← Nat.add_assoc, ← Nat.add_assoc]
              exact ih false (connects + 1) (disconnects + 1)
      | false =>
          cases needed with
          | true =>
              rw [List.destutter'_cons_pos rest (by simp), List.count_cons_of_ne (by simp)]
              exact ih true connects disconnects
          | false =>
              rw [List.destutter'_cons_neg rest (by simp)]
              exact ih false connects disconnects

/-- **BLOCKS**: from a session that is not connected, both counts grow by the number of blocks. -/
theorem turns_blocks (needs : List Bool) (connects disconnects : Nat) :
    (needs.foldl Gate.turn ⟨false, connects, disconnects⟩).turn false
      = ⟨false, connects + blocks needs, disconnects + blocks needs⟩ := by
  rw [blocks_eq]
  exact turns_count needs false connects disconnects

end Upkeep
