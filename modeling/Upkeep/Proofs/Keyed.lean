import Mathlib.Data.List.Basic

/-! # Keyed lists — one entry for a key

    Files by their names and replies by their lines are kept in lists of keys
    and values.  A value is set where its key stands, or at the end if the key
    is new.  Then the key has this value, and every other key has what it had. -/

namespace Upkeep.Keyed

variable {κ α : Type} [DecidableEq κ] {key other : κ}

/-- The list with a value set for a key. -/
def set (entries : List (κ × α)) (key : κ) (value : α) : List (κ × α) :=
  if entries.any (·.1 = key) then
    entries.map fun entry => if entry.1 = key then (key, value) else entry
  else entries ++ [(key, value)]

/-- Where a value is set the key stays. -/
theorem fst_replaced (value : α) (entry : κ × α) :
    (if entry.1 = key then (key, value) else entry).1 = entry.1 := by
  split
  · next h => exact h.symm
  · rfl

/-- The key has the value that was set. -/
theorem find?_set (entries : List (κ × α)) (key : κ) (value : α) :
    (set entries key value).find? (·.1 = key) = some (key, value) := by
  rw [set]
  by_cases hold : entries.any (·.1 = key) = true
  · -- entries are only replaced, so the one with the key is found where it was
    rw [if_pos hold, List.find?_map]
    obtain ⟨entry, hmem, hentry⟩ := List.any_eq_true.mp hold
    simp only [Function.comp_def, fst_replaced]
    cases hfind : entries.find? fun entry => decide (entry.1 = key) with
    | none => exact absurd hentry (List.find?_eq_none.mp hfind entry hmem)
    | some found =>
        have hfound : found.1 = key := by simpa using List.find?_some hfind
        rw [Option.map_some, if_pos hfound]
  · -- no entry has the key, and the new one is at the end
    rw [if_neg hold, List.find?_append]
    have hnone : entries.find? (fun entry => decide (entry.1 = key)) = none := by
      rw [List.find?_eq_none]
      exact fun entry hmem hentry => hold (List.any_eq_true.mpr ⟨entry, hmem, hentry⟩)
    simp [hnone]

/-- Every other key has what it had. -/
theorem find?_set_of_ne (h : other ≠ key) (entries : List (κ × α)) (value : α) :
    (set entries key value).find? (·.1 = other) = entries.find? (·.1 = other) := by
  rw [set]
  split
  · rw [List.find?_map]
    simp only [Function.comp_def, fst_replaced]
    cases hfind : entries.find? fun entry => decide (entry.1 = other) with
    | none => rfl
    | some found =>
        have hfound : found.1 = other := by simpa using List.find?_some hfind
        have hother : found.1 ≠ key := hfound ▸ h
        rw [Option.map_some, if_neg hother]
  · rw [List.find?_append]
    simp [h.symm]

end Upkeep.Keyed
