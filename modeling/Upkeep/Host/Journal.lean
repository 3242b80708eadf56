import Upkeep.Data.Basic

/-!
# Journal and board — what a job leaves behind in words

The journal takes log records in the order they are made, and the notes that plugins leave as
data. The board is what the operator sees: short status lines, and the warnings and errors that
are kept with the job. A board may keep nothing; then only the journal knows of its lines.
-/

namespace Upkeep

/-- How grave a log record is. -/
inductive Level where
  | debug
  | info
  | warn
  | error
  deriving DecidableEq, Repr

/-- A log record. -/
structure Record where
  level : Level
  message : String
  deriving DecidableEq, Repr

/-- An entry of the journal. -/
inductive Entry where
  | record (r : Record)
  | note (value : Data)

/-- Entries, oldest first. -/
abbrev Journal := List Entry

/-- The log records of a journal. -/
def Journal.records (journal : Journal) : List Record :=
  journal.filterMap fun
    | .record r => some r
    | .note _ => none

/-- The notes of a journal. -/
def Journal.notes (journal : Journal) : List Data :=
  journal.filterMap fun
    | .record _ => none
    | .note value => some value

/-- The lines shown and kept for the operator, oldest first. -/
structure Board where
  /-- Whether lines are kept at all. -/
  keeps : Bool := true
  statuses : List String := []
  jobInfo : List String := []
  deriving DecidableEq, Repr

/-- The board with a status line more. -/
def Board.post (board : Board) (message : String) : Board :=
  if board.keeps then { board with statuses := board.statuses ++ [message] } else board

/-- The board with a line of job information more. -/
def Board.save (board : Board) (line : String) : Board :=
  if board.keeps then { board with jobInfo := board.jobInfo ++ [line] } else board

end Upkeep
