/-! # Actions — what an action that may fail does to its state

    Dispatches and what is done over a link are actions of one kind: they change
    a state and may fail, and what happened before a failure stays done.  Here
    are the equations by which such an action is applied to a state, and those
    for what has no state to change. -/

namespace Upkeep.Action

variable {ε s α β : Type}

/-- One action after the other: the second runs if the first succeeds. -/
theorem bind_apply (first : ExceptT ε (StateM s) α) (next : α → ExceptT ε (StateM s) β)
    (state : s) :
    (first >>= next) state = match first state with
      | (.ok a, mid) => next a mid
      | (.error error, mid) => (.error error, mid) := by
  show (ExceptT.bind first next) state = _
  simp only [ExceptT.bind, ExceptT.mk, bind, StateT.bind, ExceptT.bindCont]
  rcases first state with ⟨_ | a, mid⟩
  · rfl
  · rfl

/-- Looking at the state leaves it alone. -/
theorem get_apply (state : s) : (get : ExceptT ε (StateM s) s) state = (.ok state, state) := rfl

/-- Two steps that only read succeed if both do, the second on what the first gives. -/
theorem bind_eq_ok_iff {first : Except ε α} {next : α → Except ε β} {b : β} :
    (first >>= next) = .ok b ↔ ∃ a, first = .ok a ∧ next a = .ok b := by
  cases first with
  | error error => simp [bind, Except.bind]
  | ok a => simp [bind, Except.bind]

/-- With other errors the successes are the same. -/
theorem mapError_eq_ok_iff {δ : Type} {f : ε → δ} {result : Except ε α} {a : α} :
    result.mapError f = .ok a ↔ result = .ok a := by
  cases result with
  | error error =>
      show (Except.error (f error) : Except δ α) = .ok a ↔ _
      constructor
      · intro h
        cases h
      · intro h
        cases h
  | ok b =>
      show (Except.ok b : Except δ α) = .ok a ↔ _
      rw [Except.ok.injEq, Except.ok.injEq]

/-- What is taken for a value is a success. -/
theorem toOption_eq_some_iff {result : Except ε α} {a : α} :
    result.toOption = some a ↔ result = .ok a := by
  cases result with
  | error error =>
      show none = some a ↔ _
      constructor
      · intro h
        cases h
      · intro h
        cases h
  | ok b =>
      show some b = some a ↔ _
      rw [Option.some_inj, Except.ok.injEq]

end Upkeep.Action
