import Upkeep.Text.Blank
import Mathlib.Data.List.DropRight

/-! # Blanks at the end — what trimming leaves

    A text is what trimming leaves of it, and blanks behind that.  If there is
    anything but blanks in a text, trimming does not reach what stands before it
    (`trimEnd_append`), so it keeps more of two texts in a row than of the second
    one (`length_trimEnd_lt`). -/

namespace Upkeep

/-- A text with something in it that is no blank. -/
def Inked (text : List Char) : Prop := ∃ c ∈ text, isBlank c = false

variable {before text blanks : List Char}

theorem not_inked_iff : ¬ Inked text ↔ ∀ c ∈ text, isBlank c = true := by
  simp [Inked]

/-- What trimming leaves is what Mathlib's `rdropWhile` leaves. -/
theorem trimEnd_eq_rdropWhile (text : List Char) : trimEnd text = text.rdropWhile isBlank := rfl

/-- **BLANKS**: what trimming takes is a row of blanks at the end. -/
theorem trimEnd_append_blanks (text : List Char) :
    ∃ blanks, (∀ c ∈ blanks, isBlank c = true) ∧ trimEnd text ++ blanks = text := by
  refine ⟨text.rtakeWhile isBlank, ?_, ?_⟩
  · exact fun c hc => List.mem_rtakeWhile_imp hc
  · rw [trimEnd_eq_rdropWhile]
    exact List.rdropWhile_append_rtakeWhile

theorem mem_of_mem_trimEnd {c : Char} (h : c ∈ trimEnd text) : c ∈ text := by
  obtain ⟨blanks, -, hsplit⟩ := trimEnd_append_blanks text
  rw [← hsplit]
  exact List.mem_append_left blanks h

/-- What it leaves does not end with a blank. -/
theorem isBlank_getLast_trimEnd (text : List Char) :
    ∀ c ∈ (trimEnd text).getLast?, isBlank c = false := by
  intro c hc
  have hne : trimEnd text ≠ [] := by
    intro hnil
    rw [hnil] at hc
    exact nomatch hc
  rw [List.getLast?_eq_some_getLast hne] at hc
  obtain rfl := Option.some.inj hc
  exact Bool.eq_false_iff.mpr (List.rdropWhile_last_not isBlank text hne)

/-- Nothing is left of blanks. -/
theorem trimEnd_blank (h : ∀ c ∈ text, isBlank c = true) : trimEnd text = [] := by
  rw [trimEnd_eq_rdropWhile, List.rdropWhile_eq_nil_iff]
  exact h

/-- Blanks behind a text make no difference. -/
theorem trimEnd_concat_blanks (h : ∀ c ∈ blanks, isBlank c = true) :
    trimEnd (text ++ blanks) = trimEnd text := by
  rw [trimEnd, dropEndWhile, List.reverse_append, List.dropWhile_append_of_pos]
  · rfl
  · exact fun c hc => h c (List.mem_reverse.mp hc)

/-- So there is nothing more to take from what is left. -/
theorem trimEnd_trimEnd (text : List Char) : trimEnd (trimEnd text) = trimEnd text := by
  obtain ⟨blanks, hblanks, hsplit⟩ := trimEnd_append_blanks text
  rw [← trimEnd_concat_blanks hblanks, hsplit]

/-- **KEPT**: trimming does not reach what stands before ink. -/
theorem trimEnd_append (h : Inked text) : trimEnd (before ++ text) = before ++ trimEnd text := by
  obtain ⟨c, hc, hink⟩ := h
  have hstop : (text.reverse.dropWhile isBlank).isEmpty = false := by
    rw [List.isEmpty_eq_false_iff]
    intro hnil
    rw [List.dropWhile_eq_nil_iff] at hnil
    rw [hnil c (List.mem_reverse.mpr hc)] at hink
    exact nomatch hink
  rw [trimEnd, dropEndWhile, List.reverse_append, List.dropWhile_append, hstop,
    if_neg Bool.false_ne_true, List.reverse_append, List.reverse_reverse]
  rfl

/-- Something is left of ink. -/
theorem trimEnd_ne_nil (h : Inked text) : trimEnd text ≠ [] := by
  obtain ⟨c, hc, hink⟩ := h
  rw [trimEnd_eq_rdropWhile, Ne, List.rdropWhile_eq_nil_iff]
  intro hblank
  rw [hblank c hc] at hink
  exact nomatch hink

/-- More is left of two texts than of the second one if there is ink in the first one. -/
theorem length_trimEnd_lt (h : Inked before) (text : List Char) :
    (trimEnd text).length < (trimEnd (before ++ text)).length := by
  by_cases htext : Inked text
  · obtain ⟨c, hc, -⟩ := h
    rw [trimEnd_append htext, List.length_append]
    have hpos : 0 < before.length := List.length_pos_of_mem hc
    omega
  · have hblank := not_inked_iff.mp htext
    rw [trimEnd_concat_blanks hblank, trimEnd_blank hblank]
    exact List.length_pos_iff.mpr (trimEnd_ne_nil h)

/-- What trimming leaves is at the end of the text when its end is trimmed. -/
theorem trim_suffix (text : List Char) : trim text <:+ trimEnd text := by
  by_cases hink : Inked text
  · have hsplit : text = text.takeWhile isBlank ++ trimStart text :=
      (List.takeWhile_append_dropWhile ..).symm
    have hstart : Inked (trimStart text) := by
      obtain ⟨c, hc, hcink⟩ := hink
      rw [hsplit] at hc
      rcases List.mem_append.mp hc with hblank | hstart
      · rw [List.mem_takeWhile_imp hblank] at hcink
        exact nomatch hcink
      · exact ⟨c, hstart, hcink⟩
    refine ⟨text.takeWhile isBlank, ?_⟩
    rw [trim, ← trimEnd_append hstart, ← hsplit]
  · -- there are only blanks, and nothing is left at either end
    have hblank := not_inked_iff.mp hink
    have hnothing : trim text = [] := by
      rw [trim, trimStart, List.dropWhile_eq_nil_iff.mpr hblank]
      rfl
    rw [hnothing]
    exact List.nil_suffix

end Upkeep
