import Upkeep.Proofs.Action
import Upkeep.Proofs.Host.Board
import Upkeep.Session.Basic

/-! # Discreet actions — what is done over a link reports no error

    What is done over a link may tell the board this and that, but that it fails
    it leaves to whoever asked for it.  So it is `Discreet`: it gives the board
    some notices, the same ones whatever the board is and with the same result,
    and there is no error among them. -/

namespace Upkeep

variable {σ α β : Type}

/-- The host with another board. -/
def Host.onBoard (board : Board) (host : Host) : Host := { host with board }

/-- The link on a host with another board. -/
def Link.onBoard (board : Board) (link : Link σ) : Link σ :=
  { link with host := link.host.onBoard board }

/-- The action gives every board the same notices, and no error among them. -/
def Discreet {ε : Type} (action : LinkM ε σ α) : Prop :=
  ∀ link, ∃ notices, errors notices = [] ∧
    ∀ board, action (link.onBoard board)
      = ((action link).1, (action link).2.onBoard (board.takeAll notices))

namespace Discreet

variable {ε δ : Type}

/-- What does not touch the board is discreet. -/
theorem of_silent {action : LinkM ε σ α}
    (h : ∀ board link, action (Link.onBoard board link)
      = ((action link).1, (action link).2.onBoard board)) : Discreet action :=
  fun link => ⟨[], rfl, fun board => h board link⟩

protected theorem pure (a : α) : Discreet (ε := ε) (σ := σ) (pure a) := of_silent fun _ _ => rfl

protected theorem throw (error : ε) : Discreet (σ := σ) (α := α) (throw error : LinkM ε σ α) :=
  of_silent fun _ _ => rfl

protected theorem call (f : σ → Files → Outcome σ α) : Discreet (Link.call f) :=
  of_silent fun _ _ => rfl

protected theorem log (level : Level) (message : String) :
    Discreet (ε := ε) (σ := σ) (Link.log level message) := of_silent fun _ _ => rfl

/-- A change of the host that gives every board the same notices. -/
protected theorem onHost {f : Host → Host}
    (h : ∀ host, ∃ notices, errors notices = [] ∧
      ∀ board, f (Host.onBoard board host) = (f host).onBoard (board.takeAll notices)) :
    Discreet (ε := ε) (σ := σ) (Link.onHost f) := by
  intro link
  obtain ⟨notices, hnone, htold⟩ := h link.host
  exact ⟨notices, hnone, fun board =>
    congrArg (fun host => (Except.ok (), Link.mk link.session host)) (htold board)⟩

protected theorem mapError {action : LinkM ε σ α} (f : ε → δ) (h : Discreet action) :
    Discreet (Link.mapError f action) := by
  intro link
  obtain ⟨notices, hnone, htold⟩ := h link
  refine ⟨notices, hnone, fun board => ?_⟩
  simp only [Link.mapError, htold board]
  rcases action link with ⟨_ | a, left⟩
  · rfl
  · rfl

protected theorem attempt {action : LinkM ε σ α} (h : Discreet action) :
    Discreet (Link.attempt (δ := δ) action) := by
  intro link
  obtain ⟨notices, hnone, htold⟩ := h link
  refine ⟨notices, hnone, fun board => ?_⟩
  simp only [Link.attempt, htold board]
  rfl

/-- Two discreet actions in a row are discreet. -/
protected theorem bind {action : LinkM ε σ α} {next : α → LinkM ε σ β} (h : Discreet action)
    (hnext : ∀ a, Discreet (next a)) : Discreet (action >>= next) := by
  intro link
  obtain ⟨notices, hnone, htold⟩ := h link
  rcases haction : action link with ⟨error | a, mid⟩
  all_goals rw [haction] at htold
  · refine ⟨notices, hnone, fun board => ?_⟩
    rw [Action.bind_apply, Action.bind_apply, haction, htold board]
  · obtain ⟨more, hmore, htold'⟩ := hnext a mid
    refine ⟨notices ++ more, ?_, fun board => ?_⟩
    · rw [errors_append, hnone, hmore]
      rfl
    · rw [Action.bind_apply, Action.bind_apply, haction, htold board, Board.takeAll_append]
      exact htold' _

/-- Looking at what is not on the board. -/
protected theorem get {next : Link σ → LinkM ε σ α}
    (same : ∀ board link, next (Link.onBoard board link) = next link)
    (h : ∀ link, Discreet (next link)) : Discreet (get >>= next) := by
  intro link
  obtain ⟨notices, hnone, htold⟩ := h link link
  refine ⟨notices, hnone, fun board => ?_⟩
  rw [Action.bind_apply, Action.bind_apply, Action.get_apply, Action.get_apply]
  dsimp only
  rw [same]
  exact htold board

protected theorem command [Session σ] (line : String) (limit : Duration) :
    Discreet (σ := σ) (Link.command line limit) :=
  .bind (.call _) fun _ => .get (fun _ _ => rfl) fun _ => .bind (.call _) fun _ => .pure _

end Discreet

end Upkeep
