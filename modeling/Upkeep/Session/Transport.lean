import Upkeep.Session.Invocation

/-!
# Transports — the client program behind a session

A transport carries bytes to a client program that has been started, and back. `Transport.listen`
gives the program time and gathers what it writes, read by read. What the program does with the
files of the host shows there too.
-/

namespace Upkeep

/-- What a client program has written while it was listened to. -/
structure Heard (τ : Type) where
  /-- The bytes of each read, in order. -/
  reads : List Bytes
  /-- Whether nothing will come behind them. -/
  ended : Bool
  next : τ
  files : Files

/-- A way to talk to a client program, with states in `τ`. -/
class Transport (τ : Type) where
  /-- Writes to the program's input. -/
  write (bytes : Bytes) : τ → Except IoError τ
  /-- Listens for at most so long. -/
  listen (limit : Duration) : τ → Files → Heard τ

/-- Starts the client program of an invocation. -/
abbrev Launcher (τ : Type) := Invocation → Files → Except IoError τ

end Upkeep
