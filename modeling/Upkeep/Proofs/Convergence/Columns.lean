import Upkeep.Convergence.Inventory
import Upkeep.Proofs.Text.Ascii
import Mathlib.Data.List.Infix
import Mathlib.Data.List.Sort
import Mathlib.Data.List.TakeWhile

/-! # Columns — a rule, and what stands under it

    A rule of dashes shows where the columns are: one starts with each group of
    dashes.  `Rule` has these places beside the text that shows them, and reading
    the text gives them back (`Rule.columns_eq`).

    A text that is laid out under a rule goes up to the place where the next
    column starts, or stops before it and nothing follows (`Ends`).  The cell
    between two such places is the cell that was laid out there, whatever blanks
    are around it (`cell_between`, `cell_behind`). -/

namespace Upkeep

namespace Inventory

/-! ## The header -/

/-- A line with its title in front, blanks aside, and a column of states. -/
def Header (line : Text) : Prop :=
  ∃ blanks title, line = blanks ++ title ∧ (∀ c ∈ blanks, isBlank c = true) ∧
    "Slot".toList <+: title ∧ "State".toList <:+: title

/-- A piece is found exactly where it is. -/
theorem hasPiece_iff {piece line : List Char} : hasPiece piece line = true ↔ piece <:+: line := by
  induction line with
  | nil => rw [hasPiece, List.isEmpty_iff, List.infix_nil]
  | cons c rest ih =>
      rw [hasPiece, Bool.or_eq_true, List.isPrefixOf_iff_prefix, ih, List.infix_cons_iff]

/-- **HEADER**: a line is taken for the header exactly if it is one. -/
theorem isHeader_iff {line : Text} : isHeader line = true ↔ Header line := by
  rw [isHeader, Bool.and_eq_true, List.isPrefixOf_iff_prefix, hasPiece_iff]
  constructor
  · rintro ⟨hslot, hstate⟩
    refine ⟨line.takeWhile isBlank, trimStart line, ?_, ?_, hslot, hstate⟩
    · exact (List.takeWhile_append_dropWhile ..).symm
    · exact fun c hc => List.mem_takeWhile_imp hc
  · rintro ⟨blanks, title, rfl, hblanks, hslot, hstate⟩
    -- the title begins with a letter, so the blanks end where it begins
    have htitle : trimStart (blanks ++ title) = title := by
      obtain ⟨more, rfl⟩ := hslot
      rw [trimStart, List.dropWhile_append_of_pos hblanks]
      rfl
    rw [htitle]
    exact ⟨hslot, hstate⟩

/-! ## The rule -/

/-- A group of dashes starts at a place: a dash is there, and before it there is none. -/
def GroupStart (rule : Text) (place : Nat) : Prop :=
  rule[place]? = some '-' ∧ (' ' :: rule)[place]? ≠ some '-'

/-- A rule of ASCII characters and the places of its columns, three or more, in order. -/
structure Rule where
  text : Text
  first : Nat
  second : Nat
  third : Nat
  others : List Nat
  ascii : Ascii text
  ordered : (first :: second :: third :: others).Pairwise (· < ·)
  groups : ∀ place, place ∈ first :: second :: third :: others ↔ GroupStart text place

/-- A group starts here, or further on. -/
theorem mem_groupStarts_cons {c : Char} {rest : Text} (h : Ascii (c :: rest)) (offset : Nat)
    (prior : Char) (place : Nat) :
    place ∈ groupStarts offset (prior = '-') (c :: rest) ↔
      (place = offset ∧ c = '-' ∧ prior ≠ '-') ∨
        place ∈ groupStarts (offset + 1) (c = '-') rest := by
  rw [groupStarts, utf8Size_ascii h.head]
  by_cases hc : c = '-'
  · by_cases hprior : prior = '-'
    · simp [hc, hprior]
    · simp [hc, hprior]
  · simp [hc]

/-- The places that the reading of a text gives, if this is the character before it. -/
theorem mem_groupStarts {rule : Text} (h : Ascii rule) (offset : Nat) (prior : Char)
    (place : Nat) :
    place ∈ groupStarts offset (prior = '-') rule ↔
      ∃ index, place = offset + index ∧ rule[index]? = some '-' ∧
        (prior :: rule)[index]? ≠ some '-' := by
  induction rule generalizing offset prior with
  | nil => exact ⟨fun hmem => (nomatch hmem), fun ⟨_, _, hdash, _⟩ => nomatch hdash⟩
  | cons c rest ih =>
      rw [mem_groupStarts_cons h, ih h.tail]
      constructor
      · rintro (⟨rfl, rfl, hprior⟩ | ⟨index, rfl, hdash, hbefore⟩)
        · exact ⟨0, rfl, rfl, fun heq => hprior (Option.some.inj heq)⟩
        · exact ⟨index + 1, by omega, hdash, hbefore⟩
      · rintro ⟨index, rfl, hdash, hbefore⟩
        cases index with
        | zero =>
            refine Or.inl ⟨rfl, Option.some.inj hdash, ?_⟩
            exact fun heq => hbefore (congrArg some heq)
        | succ index => exact Or.inr ⟨index, by omega, hdash, hbefore⟩

/-- They are in order. -/
theorem groupStarts_ordered {rule : Text} (h : Ascii rule) (offset : Nat) (dashed : Bool) :
    (groupStarts offset dashed rule).Pairwise (· < ·) := by
  induction rule generalizing offset dashed with
  | nil => exact List.Pairwise.nil
  | cons c rest ih =>
      have hrest := ih h.tail (offset + 1) (c = '-')
      rw [groupStarts, utf8Size_ascii h.head]
      split
      · refine List.pairwise_cons.mpr ⟨?_, hrest⟩
        intro place hplace
        obtain ⟨index, rfl, -⟩ := (mem_groupStarts h.tail _ _ _).mp hplace
        omega
      · exact hrest

/-- The columns are the places where groups of dashes start. -/
theorem mem_columns {text : Text} (h : Ascii text) {place : Nat} :
    place ∈ columns text ↔ GroupStart text place := by
  have hread := mem_groupStarts h 0 ' ' place
  refine hread.trans ?_
  constructor
  · rintro ⟨index, rfl, hdash⟩
    rw [Nat.zero_add]
    exact hdash
  · exact fun hdash => ⟨place, (Nat.zero_add _).symm, hdash⟩

/-- **RULE**: reading a rule gives the places of its columns. -/
theorem Rule.columns_eq (rule : Rule) :
    columns rule.text = rule.first :: rule.second :: rule.third :: rule.others := by
  refine (groupStarts_ordered rule.ascii 0 false).eq_of_mem_iff rule.ordered ?_
  intro place
  rw [rule.groups]
  exact mem_columns rule.ascii

/-- An ASCII text in which three columns are read, or more, is a rule. -/
def Rule.ofColumns (text : Text) (first second third : Nat) (others : List Nat)
    (hascii : Ascii text) (hcolumns : columns text = first :: second :: third :: others) :
    Rule where
  text := text
  first := first
  second := second
  third := third
  others := others
  ascii := hascii
  ordered := hcolumns ▸ groupStarts_ordered hascii 0 false
  groups place := by
    rw [← hcolumns]
    exact mem_columns hascii

/-! ## Cells -/

/-- A text without blanks at its ends. -/
structure Cell where
  text : Text
  ascii : Ascii text
  first : ∀ c ∈ text.head?, isBlank c = false
  last : ∀ c ∈ text.getLast?, isBlank c = false

/-- An ASCII text is a cell if neither its first nor its last character is blank. -/
def Cell.ofText (text : Text) (hascii : Ascii text)
    (hfirst : text.head?.all (!isBlank ·) = true)
    (hlast : text.getLast?.all (!isBlank ·) = true) : Cell where
  text := text
  ascii := hascii
  first c hc := by
    rw [Option.mem_def.mp hc] at hfirst
    exact (Bool.not_eq_true' _).mp hfirst
  last c hc := by
    rw [Option.mem_def.mp hc] at hlast
    exact (Bool.not_eq_true' _).mp hlast

/-- What is read from a cell. -/
def Cell.string (cell : Cell) : String := String.ofList cell.text

/-- Blanks of one byte each. -/
structure Padding (blanks : Text) : Prop where
  ascii : Ascii blanks
  blank : ∀ c ∈ blanks, isBlank c = true

/-- An ASCII text is padding if all of its characters are blank. -/
theorem Padding.of_all {blanks : Text} (hascii : Ascii blanks)
    (h : blanks.all isBlank = true) : Padding blanks := ⟨hascii, List.all_eq_true.mp h⟩

/-- No blanks at all are blanks. -/
theorem Padding.nil : Padding [] := ⟨Ascii.nil, List.forall_mem_nil _⟩

/-- A stretch of a line that holds a cell, with blanks before and behind it. -/
def Cell.Fills (cell : Cell) (stretch : Text) : Prop :=
  ∃ before behind, stretch = before ++ (cell.text ++ behind) ∧ Padding before ∧ Padding behind

/-- Trimming stops at a character that is not blank. -/
theorem dropWhile_eq_self {text : List Char} (h : ∀ c ∈ text.head?, isBlank c = false) :
    text.dropWhile isBlank = text := by
  cases text with
  | nil => rfl
  | cons c rest =>
      have hc : ¬ isBlank c = true := by
        rw [h c rfl]
        exact Bool.false_ne_true
      rw [List.dropWhile_cons, if_neg hc]

/-- Trimming takes the blanks around a cell, and nothing of it. -/
theorem Cell.Fills.trim_eq {cell : Cell} {stretch : Text} (h : cell.Fills stretch) :
    trim stretch = cell.text := by
  obtain ⟨before, behind, rfl, hbefore, hbehind⟩ := h
  rw [trim, trimStart, List.dropWhile_append_of_pos hbefore.blank]
  by_cases hempty : cell.text = []
  · -- all is blank
    rw [hempty, List.nil_append, List.dropWhile_eq_nil_iff.mpr hbehind.blank]
    rfl
  · have hstart : (cell.text ++ behind).dropWhile isBlank = cell.text ++ behind := by
      refine dropWhile_eq_self ?_
      rw [List.head?_append_of_ne_nil _ hempty]
      exact cell.first
    have hend : cell.text.reverse.dropWhile isBlank = cell.text.reverse := by
      refine dropWhile_eq_self ?_
      rw [List.head?_reverse]
      exact cell.last
    rw [hstart, trimEnd, dropEndWhile, List.reverse_append, List.dropWhile_append_of_pos, hend,
      List.reverse_reverse]
    exact fun c hc => hbehind.blank c (List.mem_reverse.mp hc)

theorem Cell.Fills.ascii {cell : Cell} {stretch : Text} (h : cell.Fills stretch) :
    Ascii stretch := by
  obtain ⟨before, behind, rfl, hbefore, hbehind⟩ := h
  exact hbefore.ascii.append (cell.ascii.append hbehind.ascii)

/-- A text goes up to a place: just as far, or not so far and nothing comes behind it. -/
def Ends (text behind : Text) (place : Nat) : Prop :=
  text.length ≤ place ∧ (behind ≠ [] → text.length = place)

/-- The place, or the end of the line if that comes first, is where the text stops. -/
theorem Ends.min_eq {text behind : Text} {place : Nat} (h : Ends text behind place)
    (hascii : Ascii text) : min place (byteLength (text ++ behind)) = text.length := by
  obtain ⟨hle, hreach⟩ := h
  rw [byteLength_append, byteLength_ascii hascii]
  by_cases hbehind : behind = []
  · subst hbehind
    exact Nat.min_eq_right hle
  · rw [← hreach hbehind]
    exact Nat.min_eq_left (Nat.le_add_right _ _)

section Layout

variable {layout : Cell} {before stretch behind : Text} {first last : Nat}

/-- **CELL**: between two places stands the cell that was laid out there. -/
theorem cell_between (hbefore : Ascii before) (hfills : layout.Fills stretch)
    (hfirst : Ends before (stretch ++ behind) first)
    (hlast : Ends (before ++ stretch) behind last) :
    cell (before ++ (stretch ++ behind)) first (some last) = layout.string := by
  have hstart := hfirst.min_eq hbefore
  have hstop := hlast.min_eq (hbefore.append hfills.ascii)
  rw [List.append_assoc] at hstop
  rw [cell, hstart, hstop, sliceBytes?_ascii hbefore hfills.ascii, Option.getD_some, hfills.trim_eq,
    Cell.string]

/-- Before the second place stands the first cell, wherever the first column starts. -/
theorem cell_first (hfills : layout.Fills stretch) (hlast : Ends stretch behind last) :
    cell (stretch ++ behind) 0 (some last) = layout.string := by
  have hstart : Ends [] (stretch ++ behind) 0 := ⟨Nat.le_refl _, fun _ => rfl⟩
  have hcell := cell_between Ascii.nil hfills hstart hlast
  rwa [List.nil_append] at hcell

/-- Behind the last place stands the cell that was laid out there. -/
theorem cell_behind (hbefore : Ascii before) (hfills : layout.Fills stretch)
    (hfirst : Ends before stretch first) :
    cell (before ++ stretch) first none = layout.string := by
  have hstart := hfirst.min_eq hbefore
  have hstop := byteLength_ascii (hbefore.append hfills.ascii)
  have hslice := sliceBytes?_ascii hbefore hfills.ascii []
  rw [List.append_nil] at hslice
  rw [cell, hstart, hstop, hslice, Option.getD_some, hfills.trim_eq, Cell.string]

end Layout

end Inventory

end Upkeep
