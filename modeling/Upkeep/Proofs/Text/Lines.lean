import Upkeep.Text.Lines
import Mathlib.Data.List.Basic

/-! # Lines — what is written line by line is read line by line

    A line ends at a line feed, or at a carriage return and a line feed, and the
    last line of a text needs no end.  `Written` says how lines stand in a text.
    Reading such a text gives these lines and then those of the text behind them
    (`lines_written`), whatever that is. -/

namespace Upkeep

/-- Lines stand one after the other, each with its end, and then comes the rest.  If there is no
    rest, the last line need not be ended. -/
inductive Written : List (List Char) → List Char → List Char → Prop where
  | nil (rest : List Char) : Written [] rest rest
  /-- A carriage return before the line feed would belong to the end of the line. -/
  | feed {line rest text : List Char} {more : List (List Char)} :
      '\n' ∉ line → line.getLast? ≠ some '\r' → Written more rest text →
      Written (line :: more) rest (line ++ '\n' :: text)
  | returnFeed {line rest text : List Char} {more : List (List Char)} :
      '\n' ∉ line → Written more rest text →
      Written (line :: more) rest (line ++ '\r' :: '\n' :: text)
  | last {line : List Char} : '\n' ∉ line → line ≠ [] → Written [line] [] line

/-- A line without a line feed is read up to the line feed behind it. -/
theorem rawLines_feed {line : List Char} (h : '\n' ∉ line) (text : List Char) :
    rawLines (line ++ '\n' :: text) = (line, true) :: rawLines text := by
  induction line with
  | nil => rfl
  | cons c line ih =>
      have hc : c ≠ '\n' := (List.ne_of_not_mem_cons h).symm
      have hline : '\n' ∉ line := List.not_mem_of_not_mem_cons h
      rw [List.cons_append, rawLines, if_neg hc, ih hline]

/-- The last line is read to the end of the text. -/
theorem rawLines_last {line : List Char} (h : '\n' ∉ line) (hne : line ≠ []) :
    rawLines line = [(line, false)] := by
  induction line with
  | nil => exact absurd rfl hne
  | cons c line ih =>
      have hc : c ≠ '\n' := (List.ne_of_not_mem_cons h).symm
      have hline : '\n' ∉ line := List.not_mem_of_not_mem_cons h
      rw [rawLines, if_neg hc]
      cases line with
      | nil => rfl
      | cons d line => rw [ih hline (List.cons_ne_nil _ _)]

/-- **LINES**: lines that were written are read, and then those of the rest. -/
theorem lines_written {ls : List (List Char)} {rest text : List Char} (h : Written ls rest text) :
    lines text = ls ++ lines rest := by
  induction h with
  | nil rest => rfl
  | @feed line rest text more hline hlast _ ih =>
      have hstrip : stripReturn (line, true) = line := by
        rw [stripReturn, if_neg]
        simpa using hlast
      rw [lines, rawLines_feed hline, List.map_cons, hstrip, List.cons_append, ← ih]
      rfl
  | @returnFeed line rest text more hline _ ih =>
      have hreturn : '\n' ∉ line ++ ['\r'] := by simpa using hline
      have hstrip : stripReturn (line ++ ['\r'], true) = line := by simp [stripReturn]
      have htext : line ++ '\r' :: '\n' :: text = (line ++ ['\r']) ++ '\n' :: text := by simp
      rw [htext, lines, rawLines_feed hreturn, List.map_cons, hstrip, List.cons_append, ← ih]
      rfl
  | last hline hne =>
      rw [lines, rawLines_last hline hne]
      rfl

/-- A line without a line feed is split off at the one behind it. -/
theorem splitLine_feed {line : List Char} (h : '\n' ∉ line) (rest : List Char) :
    splitLine (line ++ '\n' :: rest) = some (line, rest) := by
  induction line with
  | nil => rfl
  | cons c line ih =>
      have hc : c ≠ '\n' := (List.ne_of_not_mem_cons h).symm
      have hline : '\n' ∉ line := List.not_mem_of_not_mem_cons h
      rw [List.cons_append, splitLine, if_neg hc, ih hline]
      rfl

end Upkeep
