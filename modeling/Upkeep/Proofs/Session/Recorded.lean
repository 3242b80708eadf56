import Upkeep.Proofs.Action
import Upkeep.Session.Basic

/-! # Recorded sessions — what a session is asked, and in which order

    A session is a box: what is done over a link says what it comes to, and not
    which calls it makes.  `Recorded` puts a record beside any session.  Every
    call is made as before and then written down with its answer.

    Recording changes nothing else (`Erases`): the recorded session answers like
    the bare one, so what holds of the record holds of the calls that the bare
    session is given.  `Emits` says which calls an action adds to the record;
    its lemmas go over an action from the first call to the last. -/

namespace Upkeep

/-- A call to a session, with its answer. -/
inductive Call where
  | connect (answer : Except SessionError Unit)
  | disconnect (answer : Except SessionError Unit)
  | reconnect (forced : Bool) (answer : Except SessionError Unit)
  | send (line : String) (answer : Except SessionError Unit)
  | expect (patterns : List Pattern) (limit : Duration) (answer : Except SessionError Match)

namespace Call

/-- The line that is written, or was to be written. -/
def line? : Call → Option String
  | .send line _ => some line
  | _ => none

/-- The match that is found. -/
def found? : Call → Option Match
  | .expect _ _ (.ok found) => some found
  | _ => none

/-- The text of the pattern that is found. -/
def event? : Call → Option String
  | .expect patterns _ (.ok found) => patterns[found.index]?.map Pattern.text
  | _ => none

/-- Why the call fails. -/
def failure? : Call → Option SessionError
  | .connect (.error error) => some error
  | .disconnect (.error error) => some error
  | .reconnect _ (.error error) => some error
  | .send _ (.error error) => some error
  | .expect _ _ (.error error) => some error
  | _ => none

end Call

/-- What a session finds when it waits has the index of one of the patterns. -/
def Session.InRange (σ : Type) [Session σ] (patterns : List Pattern) : Prop :=
  ∀ (session : σ) (files : Files) (limit : Duration) (found : Match),
    (Session.expect patterns limit session files).result = .ok found →
      found.index < patterns.length

/-- A session with a record of the calls it was given. -/
structure Recorded (σ : Type) where
  session : σ
  calls : List Call := []

namespace Recorded

variable {σ α : Type}

/-- The outcome of a call with the call on the record. -/
def noted (calls : List Call) (call : Except SessionError α → Call) (outcome : Outcome σ α) :
    Outcome (Recorded σ) α where
  result := outcome.result
  next := ⟨outcome.next, calls ++ [call outcome.result]⟩
  files := outcome.files
  elapsed := outcome.elapsed
  records := outcome.records

instance [Session σ] : Session (Recorded σ) where
  connect recorded files :=
    noted recorded.calls .connect (Session.connect recorded.session files)
  disconnect recorded files :=
    noted recorded.calls .disconnect (Session.disconnect recorded.session files)
  reconnect forced recorded files :=
    noted recorded.calls (.reconnect forced) (Session.reconnect forced recorded.session files)
  isConnected recorded := Session.isConnected recorded.session
  send line recorded files :=
    noted recorded.calls (.send line) (Session.send line recorded.session files)
  expect patterns limit recorded files :=
    noted recorded.calls (.expect patterns limit)
      (Session.expect patterns limit recorded.session files)
  prompt recorded := Session.prompt recorded.session

end Recorded

namespace Link

variable {σ : Type}

/-- The link with an empty record. -/
def recording (link : Link σ) : Link (Recorded σ) := ⟨⟨link.session, []⟩, link.host⟩

/-- The link without its record. -/
def erased (link : Link (Recorded σ)) : Link σ := ⟨link.session.session, link.host⟩

/-- Recording starts from the same link. -/
@[simp] theorem erased_recording (link : Link σ) : link.recording.erased = link := rfl

end Link

/-! ## Recording changes nothing -/

/-- Over a recorded session an action comes to what another one comes to over the bare session,
    and it leaves the same link but for the record. -/
def Erases {ε σ α : Type} (recorded : LinkM ε (Recorded σ) α) (bare : LinkM ε σ α) : Prop :=
  ∀ link, bare link.erased = ((recorded link).1, (recorded link).2.erased)

namespace Erases

variable {ε δ σ α β : Type}

protected theorem pure (a : α) : Erases (ε := ε) (σ := σ) (pure a) (pure a) := fun _ => rfl

protected theorem throw (error : ε) :
    Erases (ε := ε) (σ := σ) (α := α) (throw error) (throw error) := fun _ => rfl

protected theorem onHost (f : Host → Host) :
    Erases (ε := ε) (σ := σ) (Link.onHost f) (Link.onHost f) := fun _ => rfl

protected theorem disconnect [Session σ] :
    Erases (σ := σ) (Link.call Session.disconnect) (Link.call Session.disconnect) := fun _ => rfl

protected theorem reconnect [Session σ] (forced : Bool) :
    Erases (σ := σ) (Link.call (Session.reconnect forced))
      (Link.call (Session.reconnect forced)) := fun _ => rfl

protected theorem send [Session σ] (line : String) :
    Erases (σ := σ) (Link.call (Session.send line)) (Link.call (Session.send line)) :=
  fun _ => rfl

protected theorem expect [Session σ] (patterns : List Pattern) (limit : Duration) :
    Erases (σ := σ) (Link.call (Session.expect patterns limit))
      (Link.call (Session.expect patterns limit)) := fun _ => rfl

/-- Other errors for the same errors are the same errors. -/
protected theorem mapError {recorded : LinkM ε (Recorded σ) α} {bare : LinkM ε σ α} (f : ε → δ)
    (h : Erases recorded bare) : Erases (Link.mapError f recorded) (Link.mapError f bare) := by
  intro link
  have hlink := h link
  simp only [Link.mapError, hlink]
  rcases recorded link with ⟨_ | a, last⟩
  · rfl
  · rfl

/-- A result as a value is the same value. -/
protected theorem attempt {recorded : LinkM ε (Recorded σ) α} {bare : LinkM ε σ α}
    (h : Erases recorded bare) :
    Erases (Link.attempt (δ := δ) recorded) (Link.attempt bare) := by
  intro link
  simp only [Link.attempt, h link]
  rfl

/-- What two actions in a row come to is decided by what either comes to. -/
protected theorem bind {recorded : LinkM ε (Recorded σ) α} {bare : LinkM ε σ α}
    {next : α → LinkM ε (Recorded σ) β} {bareNext : α → LinkM ε σ β}
    (h : Erases recorded bare) (hnext : ∀ a, Erases (next a) (bareNext a)) :
    Erases (recorded >>= next) (bare >>= bareNext) := by
  intro link
  rw [Action.bind_apply, Action.bind_apply, h link]
  rcases recorded link with ⟨_ | a, mid⟩
  · rfl
  · exact hnext a mid

/-- Looking at the link first, and at nothing of the record. -/
protected theorem get {recorded : Link (Recorded σ) → LinkM ε (Recorded σ) α}
    {bare : Link σ → LinkM ε σ α} (h : ∀ link, Erases (recorded link) (bare link.erased)) :
    Erases (get >>= recorded) (get >>= bare) := by
  intro link
  rw [Action.bind_apply, Action.bind_apply, Action.get_apply, Action.get_apply]
  exact h link link

/-- A command on record is the command. -/
protected theorem command [Session σ] (line : String) (limit : Duration) :
    Erases (σ := σ) (Link.command line limit) (Link.command line limit) :=
  .bind (.send line) (fun _ => .get (fun _ => .bind (.expect _ limit) (fun _ => .pure _)))

end Erases

/-! ## Which calls an action makes -/

/-- Over any recorded session an action adds calls to the record and comes to a result, and the
    calls and the result are as specified. -/
def Emits {ε σ α : Type} (action : LinkM ε (Recorded σ) α)
    (spec : List Call → Except ε α → Prop) : Prop :=
  ∀ link, ∃ calls, (action link).2.session.calls = link.session.calls ++ calls ∧
    spec calls (action link).1

namespace Emits

variable {ε δ σ α β : Type} {spec : List Call → Except ε α → Prop}

/-- A weaker specification is met as well. -/
protected theorem weaken {action : LinkM ε (Recorded σ) α} {weak : List Call → Except ε α → Prop}
    (h : Emits action spec) (hweak : ∀ calls result, spec calls result → weak calls result) :
    Emits action weak := by
  intro link
  obtain ⟨calls, hcalls, hspec⟩ := h link
  exact ⟨calls, hcalls, hweak calls _ hspec⟩

/-- An action that makes no calls and leaves the session alone. -/
theorem silent {action : LinkM ε (Recorded σ) α}
    (hcalls : ∀ link, (action link).2.session.calls = link.session.calls)
    (hspec : ∀ link, spec [] (action link).1) : Emits action spec := by
  intro link
  refine ⟨[], ?_, hspec link⟩
  rw [hcalls link, List.append_nil]

protected theorem pure {a : α} (h : spec [] (.ok a)) : Emits (σ := σ) (pure a) spec :=
  silent (fun _ => rfl) (fun _ => h)

protected theorem throw {error : ε} (h : spec [] (.error error)) :
    Emits (σ := σ) (throw error) spec := silent (fun _ => rfl) (fun _ => h)

/-- Disconnecting is one call. -/
protected theorem disconnect [Session σ] :
    Emits (σ := σ) (Link.call Session.disconnect)
      (fun calls answer => calls = [.disconnect answer]) := by
  intro link
  exact ⟨_, rfl, rfl⟩

/-- Connecting anew is one call. -/
protected theorem reconnect [Session σ] (forced : Bool) :
    Emits (σ := σ) (Link.call (Session.reconnect forced))
      (fun calls answer => calls = [.reconnect forced answer]) := by
  intro link
  exact ⟨_, rfl, rfl⟩

/-- Sending a line is one call. -/
protected theorem send [Session σ] (line : String) :
    Emits (σ := σ) (Link.call (Session.send line))
      (fun calls answer => calls = [.send line answer]) := by
  intro link
  exact ⟨_, rfl, rfl⟩

/-- Waiting is one call, and what holds of all answers of the session holds of this one. -/
protected theorem expect [Session σ] (patterns : List Pattern) (limit : Duration)
    (holds : Except SessionError Match → Prop)
    (h : ∀ (session : σ) (files : Files),
      holds (Session.expect patterns limit session files).result) :
    Emits (σ := σ) (Link.call (Session.expect patterns limit))
      (fun calls answer => calls = [.expect patterns limit answer] ∧ holds answer) := by
  intro link
  exact ⟨_, rfl, rfl, h link.session.session link.host.files⟩

/-- With other errors the calls are the same. -/
protected theorem mapError {action : LinkM ε (Recorded σ) α} (f : ε → δ) (h : Emits action spec) :
    Emits (Link.mapError f action)
      (fun calls result => ∃ answer, result = answer.mapError f ∧ spec calls answer) := by
  intro link
  obtain ⟨calls, hcalls, hspec⟩ := h link
  refine ⟨calls, ?_, (action link).1, ?_, hspec⟩
  · rw [← hcalls]
    simp only [Link.mapError]
    rcases action link with ⟨_ | a, last⟩
    · rfl
    · rfl
  · simp only [Link.mapError]
    rcases action link with ⟨_ | a, last⟩
    · rfl
    · rfl

/-- With the result as a value the calls are the same. -/
protected theorem attempt {action : LinkM ε (Recorded σ) α} (h : Emits action spec) :
    Emits (Link.attempt (δ := δ) action)
      (fun calls result => ∃ answer, result = .ok answer ∧ spec calls answer) := by
  intro link
  obtain ⟨calls, hcalls, hspec⟩ := h link
  exact ⟨calls, hcalls, (action link).1, rfl, hspec⟩

/-- Two actions in a row make the calls of the first, and then those of the second unless the
    first fails. -/
protected theorem bind {action : LinkM ε (Recorded σ) α} {next : α → LinkM ε (Recorded σ) β}
    {goal : List Call → Except ε β → Prop} (h : Emits action spec)
    (hfail : ∀ calls error, spec calls (.error error) → goal calls (.error error))
    (hnext : ∀ calls a, spec calls (.ok a) →
      Emits (next a) (fun more result => goal (calls ++ more) result)) :
    Emits (action >>= next) goal := by
  intro link
  rw [Action.bind_apply]
  obtain ⟨calls, hcalls, hspec⟩ := h link
  -- the second action starts from the link, and so from the record, that the first one leaves
  rcases haction : action link with ⟨error | a, mid⟩
  · rw [haction] at hcalls hspec
    exact ⟨calls, hcalls, hfail calls error hspec⟩
  · rw [haction] at hcalls hspec
    obtain ⟨more, hmore, hgoal⟩ := hnext calls a hspec mid
    refine ⟨calls ++ more, ?_, hgoal⟩
    rw [← List.append_assoc, ← hcalls]
    exact hmore

/-- Looking at the link first makes no call. -/
protected theorem get {next : Link (Recorded σ) → LinkM ε (Recorded σ) β}
    {goal : List Call → Except ε β → Prop} (h : ∀ link, Emits (next link) goal) :
    Emits (get >>= next) goal := by
  intro link
  rw [Action.bind_apply, Action.get_apply]
  exact h link link

/-- Changing the host first makes no call. -/
theorem afterHost {next : Unit → LinkM ε (Recorded σ) β} {goal : List Call → Except ε β → Prop}
    (f : Host → Host) (h : Emits (next ()) goal) : Emits (Link.onHost f >>= next) goal := by
  intro link
  rw [Action.bind_apply]
  exact h { link with host := f link.host }

/-- A command is sent, and unless that fails its output is waited for up to the prompt. -/
protected theorem command [Session σ] (line : String) (limit : Duration) :
    Emits (σ := σ) (Link.command line limit) (fun calls result =>
      (∃ error, calls = [.send line (.error error)] ∧ result = .error error) ∨
      ∃ prompt answer, calls = [.send line (.ok ()), .expect [prompt] limit answer] ∧
        result = answer.map fun found => stripEcho line.toList found.before) := by
  refine Emits.bind (.send line) ?_ ?_
  · rintro calls error rfl
    exact Or.inl ⟨error, rfl, rfl⟩
  · rintro calls ⟨⟩ rfl
    refine Emits.get fun link => ?_
    refine Emits.bind (.expect _ limit (fun _ => True) (fun _ _ => trivial)) ?_ ?_
    · rintro calls error ⟨rfl, -⟩
      exact Or.inr ⟨_, .error error, rfl, rfl⟩
    · rintro calls found ⟨rfl, -⟩
      exact Emits.pure (Or.inr ⟨_, .ok found, rfl, rfl⟩)

end Emits

end Upkeep
