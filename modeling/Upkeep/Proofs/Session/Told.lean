import Upkeep.Proofs.Host.Board
import Upkeep.Proofs.Session.Recorded

/-! # Told actions — which calls an action makes, and what it tells the board

    `Emits` says which calls an action adds to the record of its session, and
    nothing of the board.  `Tells` says both.  A session has no hold on the board,
    so whatever only talks to a session is taken over from `Emits` as it is, and so
    is an action that is known to give the board the same notices on every link
    (`Emits.told`). -/

namespace Upkeep

/-- Over any recorded session an action adds calls to the record, gives the board notices and comes
    to a result, and the three are as specified. -/
def Tells {ε σ α : Type} (action : LinkM ε (Recorded σ) α)
    (spec : List Call → List Notice → Except ε α → Prop) : Prop :=
  ∀ link, ∃ calls notices, (action link).2.session.calls = link.session.calls ++ calls ∧
    (action link).2.host.board = link.host.board.takeAll notices ∧ spec calls notices (action link).1

/-- An action whose calls are known gives the board what it gives it on every link. -/
theorem Emits.told {ε σ α : Type} {action : LinkM ε (Recorded σ) α}
    {spec : List Call → Except ε α → Prop} (notices : List Notice)
    (hboard : ∀ link, (action link).2.host.board = link.host.board.takeAll notices)
    (h : Emits action spec) :
    Tells action (fun calls told result => told = notices ∧ spec calls result) := by
  intro link
  obtain ⟨calls, hcalls, hspec⟩ := h link
  exact ⟨calls, notices, hcalls, hboard link, rfl, hspec⟩

namespace Tells

variable {ε σ α β : Type} {spec : List Call → List Notice → Except ε α → Prop}

/-- What is told may be left out. -/
theorem emits {action : LinkM ε (Recorded σ) α} (h : Tells action spec) :
    Emits action (fun calls result => ∃ notices, spec calls notices result) := by
  intro link
  obtain ⟨calls, notices, hcalls, -, hspec⟩ := h link
  exact ⟨calls, hcalls, notices, hspec⟩

/-- A weaker specification is met as well. -/
protected theorem weaken {action : LinkM ε (Recorded σ) α}
    {weak : List Call → List Notice → Except ε α → Prop} (h : Tells action spec)
    (hweak : ∀ calls notices result, spec calls notices result → weak calls notices result) :
    Tells action weak := by
  intro link
  obtain ⟨calls, notices, hcalls, hboard, hspec⟩ := h link
  exact ⟨calls, notices, hcalls, hboard, hweak calls notices _ hspec⟩

protected theorem throw {error : ε} (h : spec [] [] (.error error)) :
    Tells (σ := σ) (throw error) spec :=
  fun link => ⟨[], [], (List.append_nil link.session.calls).symm, rfl, h⟩

protected theorem pure {a : α} (h : spec [] [] (.ok a)) : Tells (σ := σ) (pure a) spec :=
  fun link => ⟨[], [], (List.append_nil link.session.calls).symm, rfl, h⟩

/-- Two actions in a row tell what the first one tells, and then what the second one tells unless
    the first one fails. -/
protected theorem bind {action : LinkM ε (Recorded σ) α} {next : α → LinkM ε (Recorded σ) β}
    {goal : List Call → List Notice → Except ε β → Prop} (h : Tells action spec)
    (hfail : ∀ calls notices error,
      spec calls notices (.error error) → goal calls notices (.error error))
    (hnext : ∀ calls notices a, spec calls notices (.ok a) →
      Tells (next a) (fun more told result => goal (calls ++ more) (notices ++ told) result)) :
    Tells (action >>= next) goal := by
  intro link
  rw [Action.bind_apply]
  obtain ⟨calls, notices, hcalls, hboard, hspec⟩ := h link
  -- the second action finds the record and the board as the first one leaves them
  rcases haction : action link with ⟨error | a, mid⟩
  all_goals rw [haction] at hcalls hboard hspec
  · exact ⟨calls, notices, hcalls, hboard, hfail calls notices error hspec⟩
  · obtain ⟨more, told, hmore, htold, hgoal⟩ := hnext calls notices a hspec mid
    refine ⟨calls ++ more, notices ++ told, ?_, ?_, hgoal⟩
    · rw [← List.append_assoc, ← hcalls]
      exact hmore
    · rw [Board.takeAll_append, ← hboard]
      exact htold

/-- A record for the log first is nothing that the board is told. -/
theorem afterLog {next : Unit → LinkM ε (Recorded σ) β}
    {goal : List Call → List Notice → Except ε β → Prop} (level : Level) (message : String)
    (h : Tells (next ()) goal) : Tells (Link.log level message >>= next) goal := by
  intro link
  rw [Action.bind_apply]
  exact h { link with host := link.host.log level message }

end Tells

end Upkeep
