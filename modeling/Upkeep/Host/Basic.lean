import Upkeep.Host.Duration
import Upkeep.Host.Journal
import Upkeep.Host.Files

/-!
# The host — the machine a job runs on

The host has a clock, a file tree, a journal and a board. Time passes when somebody sleeps or
waits; nothing else moves the clock. `postStatus` records a line before the board gets it.
-/

namespace Upkeep

/-- The state of the machine a job runs on. -/
structure Host where
  /-- Time passed since the job was set up. -/
  clock : Duration := .zero
  /-- When the job was set up. -/
  epoch : Instant := ⟨.zero⟩
  files : Files
  journal : Journal := []
  board : Board := {}

namespace Host

/-- The present instant. -/
def now (host : Host) : Instant := ⟨host.epoch.sinceEpoch + host.clock⟩

/-- The host after a log record. -/
def log (host : Host) (level : Level) (message : String) : Host :=
  { host with journal := host.journal ++ [.record ⟨level, message⟩] }

/-- The host after a note. -/
def note (host : Host) (value : Data) : Host :=
  { host with journal := host.journal ++ [.note value] }

/-- The host after some time. -/
def sleep (host : Host) (time : Duration) : Host := { host with clock := host.clock + time }

/-- The host after a status line: it is recorded first and shown then. -/
def postStatus (host : Host) (message : String) : Host :=
  let host := host.log .info ("[Status] " ++ message)
  { host with board := host.board.post message }

/-- The host after a line of job information. -/
def saveJobInfo (host : Host) (line : String) : Host :=
  { host with board := host.board.save line }

end Host

end Upkeep
