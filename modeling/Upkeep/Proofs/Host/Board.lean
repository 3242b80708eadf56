import Upkeep.Host.Basic

/-! # Boards — what a board is told

    A board is told status lines and lines to be kept, and it may keep neither.
    So what somebody tells is not read off the board that has been told: it is a
    list of notices, the same ones whatever board they go to (`Board.takeAll`).
    The errors among them are the lines that begin like errors (`errors`). -/

namespace Upkeep

/-- What a board may be told: a status line, or a line to be kept with the job. -/
inductive Notice where
  | status (message : String)
  | line (text : String)
  deriving DecidableEq, Repr

/-- The line of a notice. -/
def Notice.line? : Notice → Option String
  | .status _ => none
  | .line text => some text

/-- Whether a line tells an error. -/
def isErrorLine (line : String) : Bool := "ERROR: ".toList.isPrefixOf line.toList

/-- The errors among notices. -/
def errors (notices : List Notice) : List String :=
  (notices.filterMap Notice.line?).filter isErrorLine

/-- Errors before and behind add up. -/
theorem errors_append (notices more : List Notice) :
    errors (notices ++ more) = errors notices ++ errors more := by
  rw [errors, List.filterMap_append, List.filter_append]
  rfl

/-- A line that begins like an error is one. -/
theorem errors_error (message : String) :
    errors [.line ("ERROR: " ++ message)] = ["ERROR: " ++ message] := by
  have hline : isErrorLine ("ERROR: " ++ message) = true := by
    rw [isErrorLine, String.toList_append, List.isPrefixOf_iff_prefix]
    exact List.prefix_append _ _
  exact List.filter_cons_of_pos hline

/-- A line that begins like a warning is none. -/
theorem isErrorLine_warning (message : String) :
    isErrorLine ("WARNING: " ++ message) = false := by
  rw [isErrorLine, String.toList_append]
  rfl

theorem errors_warning (message : String) : errors [.line ("WARNING: " ++ message)] = [] :=
  List.filter_cons_of_neg (by rw [isErrorLine_warning]; exact Bool.false_ne_true)

namespace Board

/-- The board when it has been told. -/
def take (board : Board) : Notice → Board
  | .status message => board.post message
  | .line text => board.save text

/-- The board when it has been told one thing after the other. -/
def takeAll (board : Board) (notices : List Notice) : Board := notices.foldl take board

theorem takeAll_append (board : Board) (notices more : List Notice) :
    board.takeAll (notices ++ more) = (board.takeAll notices).takeAll more := List.foldl_append ..

/-- A board that keeps what it is told has the line of a notice behind its own, and another one
    stays as it is. -/
theorem take_jobInfo (board : Board) (notice : Notice) :
    (board.take notice).keeps = board.keeps ∧
      (board.take notice).jobInfo
        = board.jobInfo ++ if board.keeps then notice.line?.toList else [] := by
  obtain ⟨keeps, statuses, jobInfo⟩ := board
  cases keeps with
  | false => cases notice <;> exact ⟨rfl, (List.append_nil _).symm⟩
  | true =>
      cases notice with
      | status message => exact ⟨rfl, (List.append_nil _).symm⟩
      | line text => exact ⟨rfl, rfl⟩

/-- **LINES**: a board that keeps what it is told has all lines of some notices behind its own,
    and another one has none. -/
theorem takeAll_jobInfo (board : Board) (notices : List Notice) :
    (board.takeAll notices).jobInfo
      = board.jobInfo ++ if board.keeps then notices.filterMap Notice.line? else [] := by
  induction notices generalizing board with
  | nil => simp [takeAll]
  | cons notice rest ih =>
      obtain ⟨hkeeps, hline⟩ := board.take_jobInfo notice
      show ((board.take notice).takeAll rest).jobInfo = _
      rw [ih, hkeeps, hline, List.append_assoc]
      cases board.keeps with
      | false => rfl
      | true => cases notice <;> rfl

end Board

end Upkeep
