import Upkeep.Proofs.Text.Blank
import Upkeep.Proofs.Text.Lines
import Upkeep.Session.Echo

/-! # The echo — what is left of a reply

    Everything about a reply is decided by its text from the first line on that
    is not empty (`opened`).  If that line ends with the command it goes, and the
    lines behind it stay (`stripEcho_dropped`); else all of them stay
    (`stripEcho_kept`).

    A device that echoes the command puts it at the end of a line, maybe behind
    a prompt.  So what is left of such a reply is the output and nothing else
    (`stripEcho_echoed`), with line ends of one kind and no blanks behind it
    (`plain_trimEnd`).

    The blanks at the end may be taken before the first line is looked at: a line
    that ends with a command has ink, so none of it is lost (`stripEcho_shown`). -/

namespace Upkeep

/-- Text within one line. -/
structure SingleLine (text : List Char) : Prop where
  noReturn : '\r' ∉ text
  noFeed : '\n' ∉ text

theorem SingleLine.append {before text : List Char} (hbefore : SingleLine before)
    (htext : SingleLine text) : SingleLine (before ++ text) := by
  refine ⟨?_, ?_⟩
  · rw [List.mem_append, not_or]
    exact ⟨hbefore.noReturn, htext.noReturn⟩
  · rw [List.mem_append, not_or]
    exact ⟨hbefore.noFeed, htext.noFeed⟩

/-! ## Line ends -/

/-- The text with a line feed for every carriage return and line feed in a row. -/
def joinReturns : List Char → List Char
  | [] => []
  | '\r' :: '\n' :: rest => '\n' :: joinReturns rest
  | c :: rest => c :: joinReturns rest

/-- Joining the pairs first makes no difference when all other carriage returns go. -/
theorem unifyLineEnds_eq (text : List Char) :
    unifyLineEnds text = (joinReturns text).filter (· ≠ '\r') := by
  fun_induction joinReturns text with
  | case1 => rfl
  | case2 rest ih =>
      rw [List.filter_cons_of_pos (by decide), ← ih]
      rfl
  | case3 c rest _ ih =>
      by_cases hc : c = '\r'
      · rw [List.filter_cons_of_neg (by simpa using hc), ← ih, hc]
        rfl
      · rw [List.filter_cons_of_pos (by simpa using hc), ← ih, unifyLineEnds,
          List.filter_cons_of_pos (by simpa using hc)]
        rfl

theorem unifyLineEnds_append (before text : List Char) :
    unifyLineEnds (before ++ text) = unifyLineEnds before ++ unifyLineEnds text :=
  List.filter_append ..

theorem SingleLine.unifyLineEnds_eq {text : List Char} (h : SingleLine text) :
    unifyLineEnds text = text := by
  rw [unifyLineEnds, List.filter_eq_self]
  intro c hc
  rw [bne_iff_ne]
  rintro rfl
  exact h.noReturn hc

/-- The text is an output with its line ends made line feeds, all other carriage returns left
out, and so much of it as is not blank at the end; all other characters are there. -/
structure Plain (output text : List Char) : Prop where
  kept : ∃ blanks, (∀ c ∈ blanks, isBlank c = true) ∧
    text ++ blanks = (joinReturns output).filter (· ≠ '\r')
  last : ∀ c ∈ text.getLast?, isBlank c = false

theorem plain_trimEnd (output : List Char) : Plain output (trimEnd (unifyLineEnds output)) := by
  refine ⟨?_, isBlank_getLast_trimEnd _⟩
  obtain ⟨blanks, hblanks, hkept⟩ := trimEnd_append_blanks (unifyLineEnds output)
  exact ⟨blanks, hblanks, hkept.trans (unifyLineEnds_eq output)⟩

/-! ## The first line -/

/-- The text from its first line on that is not empty. -/
def opened (raw : List Char) : List Char := (unifyLineEnds raw).dropWhile (· = '\n')

variable {command raw line rest before body : List Char}

/-- Text in front that is only line ends is passed over. -/
theorem opened_append_of_nil (h : opened before = []) : opened (before ++ raw) = opened raw := by
  rw [opened, unifyLineEnds_append, List.dropWhile_append_of_pos]
  · rfl
  · exact List.dropWhile_eq_nil_iff.mp h

/-- Other text in front stays, and so do all lines behind it. -/
theorem opened_append_of_ne_nil (h : opened before ≠ []) :
    opened (before ++ raw) = opened before ++ unifyLineEnds raw := by
  have hstop : ((unifyLineEnds before).dropWhile (· = '\n')).isEmpty = false :=
    List.isEmpty_eq_false_iff.mpr h
  rw [opened, unifyLineEnds_append, List.dropWhile_append, hstop, if_neg Bool.false_ne_true]
  rfl

/-- A line with ink does not count as empty. -/
theorem opened_line (hline : SingleLine line) (hink : Inked line) : opened line = line := by
  rw [opened, hline.unifyLineEnds_eq]
  obtain ⟨c, hc, -⟩ := hink
  cases line with
  | nil => exact nomatch hc
  | cons d line =>
      have hd : d ≠ '\n' := (List.ne_of_not_mem_cons hline.noFeed).symm
      rw [List.dropWhile_cons, if_neg (by simpa using hd)]

/-- What is left of a raw text is told by its text from the first line on that is not empty. -/
theorem stripEcho_eq (command raw : List Char) :
    stripEcho command raw = trimEnd (match splitLine (opened raw) with
      | some (first, rest) =>
        if endsWith (trim command) (trimEnd first) then rest else opened raw
      | none => if endsWith (trim command) (trimEnd (opened raw)) then [] else opened raw) := rfl

theorem stripEcho_congr {other : List Char} (h : opened raw = opened other) :
    stripEcho command raw = stripEcho command other := by
  rw [stripEcho_eq, stripEcho_eq, h]

theorem endsWith_iff {ending text : List Char} : endsWith ending text = true ↔ ending <:+ text :=
  List.isSuffixOf_iff_suffix

/-- The first line goes if it ends with the command. -/
theorem stripEcho_dropped (hraw : opened raw = line ++ '\n' :: rest) (hline : '\n' ∉ line)
    (hecho : trim command <:+ trimEnd line) : stripEcho command raw = trimEnd rest := by
  rw [stripEcho_eq, hraw, splitLine_feed hline]
  dsimp only
  rw [if_pos (endsWith_iff.mpr hecho)]

/-- All lines stay if it does not. -/
theorem stripEcho_kept (hraw : opened raw = line ++ '\n' :: rest) (hline : '\n' ∉ line)
    (hecho : ¬ trim command <:+ trimEnd line) : stripEcho command raw = trimEnd (opened raw) := by
  rw [stripEcho_eq, hraw, splitLine_feed hline]
  dsimp only
  rw [if_neg (mt endsWith_iff.mp hecho)]

/-- A line that the command ends is recognised, whatever stands before the command. -/
theorem trim_suffix_trimEnd_append (hink : Inked command) (before : List Char) :
    trim command <:+ trimEnd (before ++ command) := by
  rw [trimEnd_append hink]
  exact (trim_suffix command).trans (List.suffix_append ..)

/-- **ECHO**: a reply that begins with a line that the command ends is stripped of this line and
of no other. -/
theorem stripEcho_echoed (hink : Inked command) (hcommand : SingleLine command)
    (hbefore : SingleLine before) (body : List Char) :
    stripEcho command (before ++ command ++ '\r' :: '\n' :: body)
      = trimEnd (unifyLineEnds body) := by
  have hline : SingleLine (before ++ command) := hbefore.append hcommand
  have hlineInk : Inked (before ++ command) := by
    obtain ⟨c, hc, hcink⟩ := hink
    exact ⟨c, List.mem_append_right _ hc, hcink⟩
  have hopened : opened (before ++ command) = before ++ command := opened_line hline hlineInk
  have hne : opened (before ++ command) ≠ [] := by
    obtain ⟨c, hc, -⟩ := hlineInk
    rw [hopened]
    exact List.ne_nil_of_mem hc
  have hfirst : opened (before ++ command ++ '\r' :: '\n' :: body)
      = (before ++ command) ++ '\n' :: unifyLineEnds body := by
    rw [opened_append_of_ne_nil hne, hopened]
    rfl
  exact stripEcho_dropped hfirst hline.noFeed (trim_suffix_trimEnd_append hink before)

/-! ## The reply as it is shown -/

/-- A reply with a line feed for every carriage return and line feed in a row, without all other
carriage returns, without the line feeds in front and without the blanks at the end. -/
def shown (raw : List Char) : List Char :=
  trimEnd (((joinReturns raw).filter (· ≠ '\r')).dropWhile (· = '\n'))

/-- The first line of a text. -/
def firstLine (text : List Char) : List Char := text.takeWhile (· ≠ '\n')

/-- The lines of a text behind the first one. -/
def laterLines (text : List Char) : List Char := (text.dropWhile (· ≠ '\n')).drop 1

theorem shown_eq (raw : List Char) : shown raw = trimEnd (opened raw) := by
  rw [shown, opened, unifyLineEnds_eq]

theorem feedless (h : '\n' ∉ line) : ∀ c ∈ line, decide (c ≠ '\n') = true := by
  intro c hc
  rw [decide_eq_true_eq]
  rintro rfl
  exact h hc

/-- A text of one line has no later lines. -/
theorem firstLine_single (h : '\n' ∉ line) : firstLine line = line ∧ laterLines line = [] := by
  refine ⟨List.takeWhile_eq_self_iff.mpr (feedless h), ?_⟩
  rw [laterLines, List.dropWhile_eq_nil_iff.mpr (feedless h)]
  rfl

/-- A line feed ends the first line. -/
theorem firstLine_feed (h : '\n' ∉ line) (rest : List Char) :
    firstLine (line ++ '\n' :: rest) = line ∧ laterLines (line ++ '\n' :: rest) = rest := by
  refine ⟨?_, ?_⟩
  · rw [firstLine, List.takeWhile_append_of_pos (feedless h)]
    exact List.append_nil line
  · rw [laterLines, List.dropWhile_append_of_pos (feedless h)]
    rfl

/-- A text without a line feed is not split. -/
theorem splitLine_single (h : '\n' ∉ line) : splitLine line = none := by
  induction line with
  | nil => rfl
  | cons c line ih =>
      have hc : c ≠ '\n' := (List.ne_of_not_mem_cons h).symm
      have hline : '\n' ∉ line := List.not_mem_of_not_mem_cons h
      rw [splitLine, if_neg hc, ih hline]
      rfl

/-- A reply of one line goes if the line ends with the command, and else stays. -/
theorem stripEcho_single (hraw : '\n' ∉ opened raw) :
    stripEcho command raw
      = if trim command <:+ trimEnd (opened raw) then [] else trimEnd (opened raw) := by
  rw [stripEcho_eq, splitLine_single hraw]
  dsimp only
  by_cases hecho : trim command <:+ trimEnd (opened raw)
  · rw [if_pos hecho, if_pos (endsWith_iff.mpr hecho)]
    rfl
  · rw [if_neg hecho, if_neg (mt endsWith_iff.mp hecho)]

/-- Blanks at the end reach the first line of several only if nothing but blanks is behind it. -/
theorem lines_trimEnd (h : '\n' ∉ line) (rest : List Char) :
    trimEnd (firstLine (trimEnd (line ++ '\n' :: rest))) = trimEnd line ∧
      laterLines (trimEnd (line ++ '\n' :: rest)) = trimEnd rest := by
  by_cases hink : Inked rest
  · have hkept : trimEnd (line ++ '\n' :: rest) = line ++ '\n' :: trimEnd rest := by
      have hlines : line ++ '\n' :: rest = (line ++ ['\n']) ++ rest := by simp
      rw [hlines, trimEnd_append hink]
      simp
    obtain ⟨hfirst, hlater⟩ := firstLine_feed h (trimEnd rest)
    rw [hkept, hfirst]
    exact ⟨rfl, hlater⟩
  · have hblank := not_inked_iff.mp hink
    have hblanks : ∀ c ∈ '\n' :: rest, isBlank c = true := by
      intro c hc
      rcases List.mem_cons.mp hc with rfl | hlater
      · rfl
      · exact hblank c hlater
    obtain ⟨hfirst, hlater⟩ := firstLine_single fun hfeed => h (mem_of_mem_trimEnd hfeed)
    rw [trimEnd_concat_blanks hblanks, hfirst, trimEnd_blank hblank]
    exact ⟨trimEnd_trimEnd line, hlater⟩

/-- **SHOWN**: what is left of a reply is the reply as it is shown, but for its first line if that
ends with the command. -/
theorem stripEcho_shown (command raw : List Char) :
    stripEcho command raw = if trim command <:+ trimEnd (firstLine (shown raw)) then
      laterLines (shown raw) else shown raw := by
  rw [shown_eq]
  by_cases hfeed : '\n' ∈ opened raw
  · obtain ⟨line, rest, hraw, hline⟩ := List.eq_append_cons_of_mem hfeed
    obtain ⟨hfirst, hlater⟩ := lines_trimEnd hline rest
    rw [← hraw] at hfirst hlater
    rw [hfirst, hlater]
    by_cases hecho : trim command <:+ trimEnd line
    · rw [if_pos hecho, stripEcho_dropped hraw hline hecho]
    · rw [if_neg hecho, stripEcho_kept hraw hline hecho]
  · obtain ⟨hfirst, hlater⟩ := firstLine_single fun h => hfeed (mem_of_mem_trimEnd h)
    rw [hfirst, hlater, trimEnd_trimEnd]
    exact stripEcho_single hfeed

/-- **FIRST LINE ONLY**: of a reply as it is shown no line goes but the first one, and that only if
it ends with the command.  If a command with ink was echoed behind anything in its line, the body
behind the line is left, with line ends of one kind and without the blanks at its end. -/
theorem stripEcho_removes_echo (command : List Char) :
    (∀ raw, stripEcho command raw = if trim command <:+ trimEnd (firstLine (shown raw)) then
      laterLines (shown raw) else shown raw) ∧
    (Inked command → SingleLine command → ∀ before body, SingleLine before →
      stripEcho command (before ++ command ++ '\r' :: '\n' :: body)
        = trimEnd ((joinReturns body).filter (· ≠ '\r'))) := by
  refine ⟨stripEcho_shown command, ?_⟩
  intro hink hcommand before body hbefore
  rw [stripEcho_echoed hink hcommand hbefore body, unifyLineEnds_eq]

/-- Behind a prompt the command is recognised although the device leaves out the blanks around it;
the first line of the body is empty and stays.  A reply that does not begin with the command keeps
its first line, but not the empty one in front of it. -/
theorem clock_echo_removed :
    Inked "show clock".toList ∧ SingleLine "show clock".toList ∧ SingleLine "router#".toList ∧
      stripEcho "show clock".toList ("router#".toList ++ "show clock".toList ++
        '\r' :: '\n' :: "\r\n12:00:00 UTC \r\n\r\n".toList) = "\n12:00:00 UTC".toList ∧
      stripEcho " show clock ".toList "\r\n12:00:00\r\nshow clock\r\n".toList
        = "12:00:00\nshow clock".toList := by
  have hink : Inked "show clock".toList := ⟨'s', by decide, by decide⟩
  have hcommand : SingleLine "show clock".toList := ⟨by decide, by decide⟩
  have hprompt : SingleLine "router#".toList := ⟨by decide, by decide⟩
  obtain ⟨-, hechoed⟩ := stripEcho_removes_echo "show clock".toList
  obtain ⟨hshown, -⟩ := stripEcho_removes_echo " show clock ".toList
  refine ⟨hink, hcommand, hprompt, ?_, ?_⟩
  · rw [hechoed hink hcommand _ _ hprompt]
    decide
  · rw [hshown]
    decide

end Upkeep
