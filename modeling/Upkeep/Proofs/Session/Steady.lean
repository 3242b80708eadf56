import Upkeep.Proofs.Action
import Upkeep.Session.Basic

/-! # Steady actions — what is done over a link, whatever was told before

    The journal grows and the lines kept with a job grow, and nobody looks back
    at either.  So what a host has been told before makes no difference to what
    it is told next: reports go past `Host.behind`, and whatever is done over a
    link goes past it as well, result and all (`Steady`). -/

namespace Upkeep

variable {σ α β : Type}

/-- What has been told up to some time: the journal, and the lines kept with the job. -/
structure Past where
  journal : Journal
  jobInfo : List String

namespace Host

/-- The host behind a past: it has been told this before all that it knows of. -/
def behind (past : Past) (host : Host) : Host :=
  { host with
    journal := past.journal ++ host.journal
    board := { host.board with jobInfo := past.jobInfo ++ host.board.jobInfo } }

variable (past : Past) (host : Host)

theorem behind_log (level : Level) (message : String) :
    (host.behind past).log level message = (host.log level message).behind past := by
  simp only [log, behind, List.append_assoc]

theorem behind_note (value : Data) :
    (host.behind past).note value = (host.note value).behind past := by
  simp only [note, behind, List.append_assoc]

theorem behind_saveJobInfo (line : String) :
    (host.behind past).saveJobInfo line = (host.saveJobInfo line).behind past := by
  cases hkeeps : host.board.keeps with
  | false => simp [saveJobInfo, behind, Board.save, hkeeps]
  | true => simp [saveJobInfo, behind, Board.save, hkeeps]

theorem behind_postStatus (message : String) :
    (host.behind past).postStatus message = (host.postStatus message).behind past := by
  cases hkeeps : host.board.keeps with
  | false => simp [postStatus, log, behind, Board.post, hkeeps]
  | true => simp [postStatus, log, behind, Board.post, hkeeps]

end Host

/-- The link on the host behind a past. -/
def Link.behind (past : Past) (link : Link σ) : Link σ :=
  { link with host := link.host.behind past }

/-- A call is answered on the host behind a past as it is on the host. -/
theorem Link.behind_after (past : Past) (link : Link σ) (outcome : Outcome σ α) :
    (link.behind past).after outcome = (link.after outcome).behind past := by
  simp only [after, behind, Host.behind, List.append_assoc]

/-- What is done over a link is done behind any past in the same way. -/
def Steady {ε : Type} (action : LinkM ε σ α) : Prop :=
  ∀ past link, action (link.behind past) = ((action link).1, (action link).2.behind past)

namespace Steady

variable {ε δ : Type}

protected theorem pure (a : α) : Steady (ε := ε) (σ := σ) (pure a) := fun _ _ => rfl

protected theorem throw (error : ε) : Steady (σ := σ) (α := α) (throw error : LinkM ε σ α) :=
  fun _ _ => rfl

protected theorem call (f : σ → Files → Outcome σ α) : Steady (Link.call f) := by
  intro past link
  exact congrArg (Prod.mk _) (Link.behind_after past link (f link.session link.host.files))

protected theorem onHost {f : Host → Host}
    (h : ∀ past host, f (Host.behind past host) = (f host).behind past) :
    Steady (ε := ε) (σ := σ) (Link.onHost f) := by
  intro past link
  exact congrArg (fun host => (Except.ok (), Link.mk link.session host)) (h past link.host)

protected theorem log (level : Level) (message : String) :
    Steady (ε := ε) (σ := σ) (Link.log level message) :=
  .onHost fun past host => host.behind_log past level message

protected theorem mapError {action : LinkM ε σ α} (f : ε → δ) (h : Steady action) :
    Steady (Link.mapError f action) := by
  intro past link
  simp only [Link.mapError, h past link]
  rcases action link with ⟨_ | a, last⟩
  · rfl
  · rfl

protected theorem attempt {action : LinkM ε σ α} (h : Steady action) :
    Steady (Link.attempt (δ := δ) action) := by
  intro past link
  simp only [Link.attempt, h past link]
  rfl

/-- Two steady actions in a row are steady. -/
protected theorem bind {action : LinkM ε σ α} {next : α → LinkM ε σ β} (h : Steady action)
    (hnext : ∀ a, Steady (next a)) : Steady (action >>= next) := by
  intro past link
  rw [Action.bind_apply, Action.bind_apply, h past link]
  rcases action link with ⟨_ | a, mid⟩
  · rfl
  · exact hnext a past mid

/-- Looking at what does not depend on the past. -/
protected theorem get {next : Link σ → LinkM ε σ α}
    (same : ∀ past link, next (Link.behind past link) = next link)
    (h : ∀ link, Steady (next link)) : Steady (get >>= next) := by
  intro past link
  rw [Action.bind_apply, Action.bind_apply, Action.get_apply, Action.get_apply]
  dsimp only
  rw [same]
  exact h link past link

protected theorem command [Session σ] (line : String) (limit : Duration) :
    Steady (σ := σ) (Link.command line limit) :=
  .bind (.call _) fun _ => .get (fun _ _ => rfl) fun _ => .bind (.call _) fun _ => .pure _

end Steady

end Upkeep
