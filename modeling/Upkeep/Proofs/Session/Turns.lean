import Upkeep.Proofs.Session.Recorded

/-! # Turns — what a session is asked, one request after the other

    Whoever holds a session may ask it anything, in any order, and between two
    requests the files of the host may change.  A row of requests makes a row of
    turns, each of which finds the session as the turn before it has left it.

    What is done over a link is such a row (`Plays`): the calls on the record are
    those of its turns, and the session is left as the last of them leaves it. -/

namespace Upkeep

namespace Session

/-- What a session can be asked. -/
inductive Request where
  | connect
  | disconnect
  | reconnect (forced : Bool)
  | send (line : String)
  | expect (patterns : List Pattern) (limit : Duration)

/-- The request that a call was made for. -/
def Request.ofCall : Call → Request
  | .connect _ => .connect
  | .disconnect _ => .disconnect
  | .reconnect forced _ => .reconnect forced
  | .send line _ => .send line
  | .expect patterns limit _ => .expect patterns limit

/-- A request that was made: the session and the files of the host before it, the call with its
    answer, and the session and the files behind it. -/
structure Turn (σ : Type) where
  before : σ
  files : Files
  call : Call
  behind : σ
  left : Files

variable {σ : Type}

/-- The turn of a call that comes to an outcome. -/
def Turn.of {α : Type} (session : σ) (files : Files) (call : Except SessionError α → Call)
    (outcome : Outcome σ α) : Turn σ :=
  ⟨session, files, call outcome.result, outcome.next, outcome.files⟩

variable [Session σ]

/-- Makes a request. -/
def Request.turn (request : Request) (session : σ) (files : Files) : Turn σ :=
  match request with
  | .connect => .of session files .connect (Session.connect session files)
  | .disconnect => .of session files .disconnect (Session.disconnect session files)
  | .reconnect forced =>
    .of session files (.reconnect forced) (Session.reconnect forced session files)
  | .send line => .of session files (.send line) (Session.send line session files)
  | .expect patterns limit =>
    .of session files (.expect patterns limit) (Session.expect patterns limit session files)

/-- Makes requests one after the other, each on a host with the files beside it. -/
def turns (session : σ) : List (Request × Files) → List (Turn σ)
  | [] => []
  | (request, files) :: rest =>
    request.turn session files :: turns (request.turn session files).behind rest

/-- The session behind some requests. -/
def after (session : σ) (asked : List (Request × Files)) : σ :=
  asked.foldl (fun session asked => (asked.1.turn session asked.2).behind) session

section Rows

variable {session : σ} {asked : List (Request × Files)}

theorem turn_before (request : Request) (session : σ) (files : Files) :
    (request.turn session files).before = session := by
  cases request with
  | connect => rfl
  | disconnect => rfl
  | reconnect forced => rfl
  | send line => rfl
  | expect patterns limit => rfl

/-- A turn makes the call that it is asked for. -/
theorem ofCall_turn (request : Request) (session : σ) (files : Files) :
    Request.ofCall (request.turn session files).call = request := by
  cases request with
  | connect => rfl
  | disconnect => rfl
  | reconnect forced => rfl
  | send line => rfl
  | expect patterns limit => rfl

theorem request_eq {request : Request} {files : Files} {call : Call}
    (h : (request.turn session files).call = call) : request = Request.ofCall call := by
  rw [← h, ofCall_turn]

theorem turns_append (session : σ) (front rest : List (Request × Files)) :
    turns session (front ++ rest) = turns session front ++ turns (after session front) rest := by
  induction front generalizing session with
  | nil => rfl
  | cons first front ih =>
      obtain ⟨request, files⟩ := first
      exact congrArg (request.turn session files :: ·) (ih _)

theorem after_append (session : σ) (front rest : List (Request × Files)) :
    after session (front ++ rest) = after (after session front) rest := List.foldl_append ..

/-- **TURN**: a turn of a row finds the session behind the requests in front of it, and the rest of
    the row goes on from what it leaves. -/
theorem turns_split {earlier later : List (Turn σ)} {turn : Turn σ}
    (h : turns session asked = earlier ++ turn :: later) :
    ∃ front request files rest, asked = front ++ (request, files) :: rest ∧
      earlier = turns session front ∧ turn = request.turn (after session front) files ∧
      later = turns turn.behind rest := by
  induction earlier generalizing session asked with
  | nil =>
      cases asked with
      | nil => exact nomatch h
      | cons first rest =>
          obtain ⟨request, files⟩ := first
          obtain ⟨hturn, hlater⟩ := List.cons.inj h
          refine ⟨[], request, files, rest, rfl, rfl, hturn.symm, ?_⟩
          rw [← hturn]
          exact hlater.symm
  | cons other earlier ih =>
      cases asked with
      | nil => exact nomatch h
      | cons first rest =>
          obtain ⟨request, files⟩ := first
          obtain ⟨rfl, hrest⟩ := List.cons.inj h
          obtain ⟨front, later, files', last, rfl, rfl, hturn, hlast⟩ := ih hrest
          exact ⟨(request, files) :: front, later, files', last, rfl, rfl, hturn, hlast⟩

/-- So does each of them. -/
theorem turn_of_mem {turn : Turn σ} (h : turn ∈ turns session asked) :
    ∃ front request files rest, asked = front ++ (request, files) :: rest ∧
      turn = request.turn (after session front) files := by
  obtain ⟨earlier, later, hsplit⟩ := List.append_of_mem h
  obtain ⟨front, request, files, rest, hasked, -, hturn, -⟩ := turns_split hsplit
  exact ⟨front, request, files, rest, hasked, hturn⟩

end Rows

/-! ## What is done over a link -/

/-- All that an action does to a recorded session it does by asking it.  What it has asked is on the
    record, and the turns and the result are as specified. -/
def Plays {ε α : Type} (action : LinkM ε (Recorded σ) α)
    (spec : List (Turn σ) → Except ε α → Prop) : Prop :=
  ∀ link, ∃ asked,
    (action link).2.session.calls
      = link.session.calls ++ (turns link.session.session asked).map Turn.call ∧
    (action link).2.session.session = after link.session.session asked ∧
    spec (turns link.session.session asked) (action link).1

namespace Plays

variable {ε δ α β : Type} {spec : List (Turn σ) → Except ε α → Prop}

/-- A weaker specification is met as well. -/
protected theorem weaken {action : LinkM ε (Recorded σ) α}
    {weak : List (Turn σ) → Except ε α → Prop} (h : Plays action spec)
    (hweak : ∀ row result, spec row result → weak row result) : Plays action weak := by
  intro link
  obtain ⟨asked, hcalls, hsession, hspec⟩ := h link
  exact ⟨asked, hcalls, hsession, hweak _ _ hspec⟩

/-- An action that leaves the session alone. -/
theorem silent {action : LinkM ε (Recorded σ) α}
    (hsession : ∀ link, (action link).2.session = link.session)
    (hspec : ∀ link, spec [] (action link).1) : Plays action spec := by
  intro link
  refine ⟨[], ?_, ?_, hspec link⟩
  · rw [hsession link]
    exact (List.append_nil _).symm
  · rw [hsession link]
    rfl

protected theorem pure {a : α} (h : spec [] (.ok a)) : Plays (pure a) spec :=
  silent (fun _ => rfl) fun _ => h

protected theorem throw {error : ε} (h : spec [] (.error error)) : Plays (throw error) spec :=
  silent (fun _ => rfl) fun _ => h

protected theorem send (line : String) :
    Plays (Link.call (Session.send line)) (fun (row : List (Turn σ)) answer =>
      ∃ turn, row = [turn] ∧ turn.call = .send line answer) :=
  fun link => ⟨[(.send line, link.host.files)], rfl, rfl, _, rfl, rfl⟩

protected theorem expect (patterns : List Pattern) (limit : Duration) :
    Plays (Link.call (Session.expect patterns limit)) (fun (row : List (Turn σ)) answer =>
      ∃ turn, row = [turn] ∧ turn.call = .expect patterns limit answer) :=
  fun link => ⟨[(.expect patterns limit, link.host.files)], rfl, rfl, _, rfl, rfl⟩

/-- With other errors the turns are the same. -/
protected theorem mapError {action : LinkM ε (Recorded σ) α} (f : ε → δ) (h : Plays action spec) :
    Plays (Link.mapError f action)
      (fun row result => ∃ answer, result = answer.mapError f ∧ spec row answer) := by
  intro link
  obtain ⟨asked, hcalls, hsession, hspec⟩ := h link
  refine ⟨asked, ?_, ?_, (action link).1, ?_, hspec⟩
  · rw [← hcalls, Link.mapError]
    rcases action link with ⟨_ | a, last⟩
    · rfl
    · rfl
  · rw [← hsession, Link.mapError]
    rcases action link with ⟨_ | a, last⟩
    · rfl
    · rfl
  · rw [Link.mapError]
    rcases action link with ⟨_ | a, last⟩
    · rfl
    · rfl

/-- Two actions in a row take the turns of the first, and then those of the second unless the
    first fails. -/
protected theorem bind {action : LinkM ε (Recorded σ) α} {next : α → LinkM ε (Recorded σ) β}
    {goal : List (Turn σ) → Except ε β → Prop} (h : Plays action spec)
    (hfail : ∀ row error, spec row (.error error) → goal row (.error error))
    (hnext : ∀ row a, spec row (.ok a) →
      Plays (next a) (fun more result => goal (row ++ more) result)) :
    Plays (action >>= next) goal := by
  intro link
  rw [Action.bind_apply]
  obtain ⟨asked, hcalls, hsession, hspec⟩ := h link
  rcases haction : action link with ⟨error | a, mid⟩
  all_goals rw [haction] at hcalls hsession hspec
  · exact ⟨asked, hcalls, hsession, hfail _ error hspec⟩
  · obtain ⟨more, hmore, hlast, hgoal⟩ := hnext _ a hspec mid
    rw [hsession] at hmore hlast hgoal
    refine ⟨asked ++ more, ?_, ?_, ?_⟩
    · rw [turns_append, List.map_append, ← List.append_assoc, ← hcalls]
      exact hmore
    · rw [after_append]
      exact hlast
    · rw [turns_append]
      exact hgoal

/-- Changing the host first takes no turn. -/
theorem afterHost {next : Unit → LinkM ε (Recorded σ) β}
    {goal : List (Turn σ) → Except ε β → Prop} (f : Host → Host) (h : Plays (next ()) goal) :
    Plays (Link.onHost f >>= next) goal := by
  intro link
  rw [Action.bind_apply]
  exact h { link with host := f link.host }

end Plays

end Session

end Upkeep
