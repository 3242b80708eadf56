/-!
# Sets of names

A set of names is kept as a list in ascending order without repetitions, so that two sets with
the same members are equal and show in one way only.
-/

namespace Upkeep

/-- Names in ascending order, each once. -/
structure Names where
  toList : List String := []
  deriving DecidableEq, Repr, Inhabited

namespace Names

/-- Puts a name into an ascending list unless it is there. -/
def insertInto (name : String) : List String → List String
  | [] => [name]
  | other :: rest =>
    if name = other then other :: rest
    else if name < other then name :: other :: rest
    else other :: insertInto name rest

/-- The set with one name more. -/
def insert (name : String) (names : Names) : Names := ⟨insertInto name names.toList⟩

/-- The set of the names in a list. -/
def ofList (names : List String) : Names := names.foldl (fun set name => set.insert name) ⟨[]⟩

/-- Whether a name is in the set. -/
def contains (names : Names) (name : String) : Bool := names.toList.contains name

/-- Whether the set has no members. -/
def isEmpty (names : Names) : Bool := names.toList.isEmpty

theorem mem_insertInto {a name : String} {names : List String} :
    a ∈ insertInto name names ↔ a = name ∨ a ∈ names := by
  induction names with
  | nil => simp [insertInto]
  | cons other rest ih =>
    simp only [insertInto]
    split
    · next h => subst h; simp
    · split
      · simp
      · simp [ih, or_left_comm]

/-- A set holds what went into it. -/
theorem mem_ofList {a : String} {names : List String} : a ∈ (ofList names).toList ↔ a ∈ names := by
  suffices ∀ (set : Names),
      a ∈ (names.foldl (fun set name => set.insert name) set).toList ↔ a ∈ set.toList ∨ a ∈ names by
    simpa [ofList] using this ⟨[]⟩
  induction names with
  | nil => simp
  | cons name rest ih =>
    intro set
    rw [List.foldl_cons, ih]
    simp [insert, mem_insertInto, or_assoc, or_left_comm]

end Names

end Upkeep
