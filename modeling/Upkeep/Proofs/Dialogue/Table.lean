import Upkeep.Proofs.Session.Told
import Upkeep.Dialogue.Basic

/-! # Tables — a dialogue is a run of its table

    A dialogue waits, looks up a transition, carries out an action and sends what
    the action has queued, over and over.  Read as an automaton, its table says
    the same in one line: from a state, on an event, the FIRST transition that
    is for both.

    `Path` is a walk through the table.  `Follows` is what a dialogue does on the
    way: transitions that fire and are accepted, each with its wait and its
    lines, and then a `Stop`, which is the end or one of five failures.  `Goes` is
    the same for a dialogue that may be cut off as well.
    `follow_tells` goes from the loop to this relation, by induction on the
    waits, and has the board told what the actions of these transitions tell it;
    everything else is read off it. -/

namespace Upkeep

/-- What an effect tells the board. -/
def Effect.notice? : Effect → Option Notice
  | .send _ => none
  | .post message => some (.status message)
  | .warn message => some (.line ("WARNING: " ++ message))
  | .note _ => none

/-- Effects tell the board one thing after the other. -/
theorem Effect.board_foldl (dialogue : String) (effects : List Effect) (host : Host) :
    (effects.foldl (Effect.apply dialogue) host).board
      = host.board.takeAll (effects.filterMap Effect.notice?) := by
  induction effects generalizing host with
  | nil => rfl
  | cons effect rest ih =>
      rw [List.foldl_cons, ih]
      cases effect with
      | send line => rfl
      | post message => rfl
      | warn message => rfl
      | note value => rfl

/-- A transition that fires: the state it fires in, and the match of its event. -/
structure Fired where
  state : Int
  found : Match
  transition : Transition

namespace Fired

/-- What its action comes to. -/
def response (dialogue : Dialogue) (fired : Fired) : Response :=
  match fired.transition.action with
  | none => {}
  | some action => action ⟨dialogue.name, fired.state, fired.found.before, fired.found.text⟩

/-- The lines that its action queues. -/
def lines (dialogue : Dialogue) (fired : Fired) : List String :=
  Effect.lines (fired.response dialogue).effects

/-- What its action tells the board. -/
def notices (dialogue : Dialogue) (fired : Fired) : List Notice :=
  (fired.response dialogue).effects.filterMap Effect.notice?

/-- Whether its action lets the run go on. -/
def Accepted (dialogue : Dialogue) (fired : Fired) : Prop :=
  (fired.response dialogue).accepts = true

/-- It is the first transition of the table that is for its event and its state. -/
structure First (dialogue : Dialogue) (fired : Fired) : Prop where
  event : ∃ pattern, dialogue.events[fired.found.index]? = some pattern ∧
    pattern.text = fired.transition.event
  source : fired.state ∈ fired.transition.sources
  first : ∃ before after, dialogue.transitions = before ++ fired.transition :: after ∧
    ∀ other ∈ before, ¬ (other.event = fired.transition.event ∧ fired.state ∈ other.sources)

end Fired

namespace Dialogue

/-! ## Look-ups -/

/-- Whether a transition is for an event in a state, as a proposition. -/
theorem firesOn_iff (transition : Transition) (event : String) (state : Int) :
    transition.firesOn event state = true ↔
      transition.event = event ∧ state ∈ transition.sources := by
  simp only [Transition.firesOn, Bool.and_eq_true, decide_eq_true_eq, List.contains_iff_mem]

/-- What a look-up finds is the first transition for the event and the state. -/
theorem first_of_transition? {dialogue : Dialogue} {found : Match} {pattern : Pattern}
    {state : Int} {transition : Transition}
    (hpattern : dialogue.events[found.index]? = some pattern)
    (h : dialogue.transition? pattern.text state = some transition) :
    (Fired.mk state found transition).First dialogue := by
  obtain ⟨hfires, before, after, hsplit, hbefore⟩ := List.find?_eq_some_iff_append.mp h
  obtain ⟨hevent, hsource⟩ := (firesOn_iff transition pattern.text state).mp hfires
  refine ⟨⟨pattern, hpattern, hevent.symm⟩, hsource, before, after, hsplit, ?_⟩
  -- the look-up has passed over all of `before`
  intro other hother hboth
  have hnot := hbefore other hother
  rw [hevent, ← firesOn_iff] at hboth
  rw [hboth] at hnot
  exact nomatch hnot

/-- If a look-up finds nothing, no transition is for the event and the state. -/
theorem none_of_transition? {dialogue : Dialogue} {event : String} {state : Int}
    (h : dialogue.transition? event state = none) :
    ∀ transition ∈ dialogue.transitions,
      ¬ (transition.event = event ∧ state ∈ transition.sources) := by
  intro transition hmem hboth
  exact List.find?_eq_none.mp h transition hmem ((firesOn_iff transition event state).mpr hboth)

/-! ## Walks through a table -/

/-- Transitions that fire one after the other, from a state to a state. No transition fires in
    the final state. -/
inductive Path (dialogue : Dialogue) : Int → List Fired → Int → Prop where
  | nil (state : Int) : Path dialogue state [] state
  | cons {fired : Fired} {rest : List Fired} {last : Int} :
      fired.First dialogue → fired.state ≠ final →
      Path dialogue fired.transition.next rest last →
      Path dialogue fired.state (fired :: rest) last

/-- The calls for sending lines that all arrive. -/
def sendings (lines : List String) : List Call := lines.map (.send · (.ok ()))

/-- The calls for a transition that fires: its wait, and its lines. -/
def calls (dialogue : Dialogue) (limit : Duration) (fired : Fired) : List Call :=
  .expect dialogue.events limit (.ok fired.found) :: sendings (fired.lines dialogue)

/-- How a dialogue is over in a state, with the transition that fires last if it is one that
    fails. -/
inductive Stop (dialogue : Dialogue) :
    Int → Duration → Option Fired → List Call → Except DialogueError Unit → Prop where
  | arrived {limit : Duration} : Stop dialogue final limit none [] (.ok ())
  | timeout {state : Int} {limit waited : Duration} {tail : Text} :
      state ≠ final →
      Stop dialogue state limit none [.expect dialogue.events limit (.error (.timeout waited tail))]
        (.error (.timeout dialogue.name state tail))
  | broken {state : Int} {limit : Duration} {error : SessionError} :
      state ≠ final → (∀ waited tail, error ≠ .timeout waited tail) →
      Stop dialogue state limit none [.expect dialogue.events limit (.error error)]
        (.error (.session dialogue.name error))
  | unexpected {state : Int} {limit : Duration} {found : Match} {pattern : Pattern} :
      state ≠ final → dialogue.events[found.index]? = some pattern →
      dialogue.transition? pattern.text state = none →
      Stop dialogue state limit none [.expect dialogue.events limit (.ok found)]
        (.error (.unexpectedEvent dialogue.name pattern.text state))
  | unwritten {limit : Duration} {fired : Fired} {before after : List String} {line : String}
      {error : SessionError} :
      fired.state ≠ final → fired.First dialogue →
      fired.lines dialogue = before ++ line :: after →
      Stop dialogue fired.state limit (some fired)
        (.expect dialogue.events limit (.ok fired.found) ::
          (sendings before ++ [.send line (.error error)]))
        (.error (.session dialogue.name error))
  | refused {limit : Duration} {fired : Fired} :
      fired.state ≠ final → fired.First dialogue → ¬ fired.Accepted dialogue →
      Stop dialogue fired.state limit (some fired) (dialogue.calls limit fired)
        (.error (.actionFailed dialogue.name fired.transition.event fired.state))

/-- What a dialogue does from a state on: transitions fire and are accepted, and then it is
    over. -/
inductive Follows (dialogue : Dialogue) :
    Int → Duration → List Fired → Option Fired → List Call → Except DialogueError Unit → Prop where
  | stop {state : Int} {limit : Duration} {last : Option Fired} {calls : List Call}
      {result : Except DialogueError Unit} :
      Stop dialogue state limit last calls result →
      Follows dialogue state limit [] last calls result
  | next {limit : Duration} {fired : Fired} {done : List Fired} {last : Option Fired}
      {calls : List Call} {result : Except DialogueError Unit} :
      fired.state ≠ final → fired.First dialogue → fired.Accepted dialogue →
      Follows dialogue fired.transition.next (fired.transition.limit.getD limit) done last calls
        result →
      Follows dialogue fired.state limit (fired :: done) last
        (dialogue.calls limit fired ++ calls) result

/-- Transitions that fire and are accepted, with their calls, up to a state and the limit of the
    next wait. -/
inductive Walks (dialogue : Dialogue) :
    Int → Duration → List Fired → List Call → Int → Duration → Prop where
  | nil {state : Int} {limit : Duration} : Walks dialogue state limit [] [] state limit
  | cons {limit waiting : Duration} {fired : Fired} {done : List Fired} {calls : List Call}
      {last : Int} :
      fired.state ≠ final → fired.First dialogue → fired.Accepted dialogue →
      Walks dialogue fired.transition.next (fired.transition.limit.getD limit) done calls last
        waiting →
      Walks dialogue fired.state limit (fired :: done) (dialogue.calls limit fired ++ calls) last
        waiting

/-- What a dialogue does from a state on that may be cut off, with all transitions that fire, the
    last one included if that is one that fails. -/
inductive Goes (dialogue : Dialogue) :
    Int → Duration → List Fired → List Call → Except DialogueError Unit → Prop where
  | stop {state : Int} {limit : Duration} {last : Option Fired} {calls : List Call}
      {result : Except DialogueError Unit} :
      Stop dialogue state limit last calls result →
      Goes dialogue state limit last.toList calls result
  | cutOff {state : Int} {limit : Duration} :
      state ≠ final →
      Goes dialogue state limit [] [] (.error (.unfinished dialogue.name state))
  | next {limit : Duration} {fired : Fired} {later : List Fired} {calls : List Call}
      {result : Except DialogueError Unit} :
      fired.state ≠ final → fired.First dialogue → fired.Accepted dialogue →
      Goes dialogue fired.transition.next (fired.transition.limit.getD limit) later calls result →
      Goes dialogue fired.state limit (fired :: later) (dialogue.calls limit fired ++ calls) result

/-- A dialogue is over, or it is cut off behind a walk. -/
theorem Goes.follows_or_walks {dialogue : Dialogue} {state : Int} {limit : Duration}
    {fired : List Fired} {calls : List Call} {result : Except DialogueError Unit}
    (h : Goes dialogue state limit fired calls result) :
    (∃ done last, fired = done ++ last.toList ∧
      Follows dialogue state limit done last calls result) ∨
    ∃ stuck waiting, result = .error (.unfinished dialogue.name stuck) ∧
      Walks dialogue state limit fired calls stuck waiting := by
  induction h with
  | stop hstop => exact Or.inl ⟨[], _, rfl, .stop hstop⟩
  | cutOff going => exact Or.inr ⟨_, _, rfl, .nil⟩
  | next going hfirst haccepted _ ih =>
      rcases ih with ⟨done, last, rfl, hfollows⟩ | ⟨stuck, waiting, hresult, hwalks⟩
      · exact Or.inl ⟨_ :: done, last, rfl, .next going hfirst haccepted hfollows⟩
      · exact Or.inr ⟨stuck, waiting, hresult, .cons going hfirst haccepted hwalks⟩

/-! ## From the loop to the relation -/

variable {σ : Type} [Session σ]

/-- Lines are sent up to the first that fails. -/
theorem sendLines_emits (dialogue : Dialogue) (lines : List String) :
    Emits (dialogue.sendLines (σ := Recorded σ) lines) (fun calls result =>
      (calls = sendings lines ∧ result = .ok ()) ∨
      ∃ before line after error, lines = before ++ line :: after ∧
        calls = sendings before ++ [.send line (.error error)] ∧
        result = .error (.session dialogue.name error)) := by
  induction lines with
  | nil => exact Emits.pure (Or.inl ⟨rfl, rfl⟩)
  | cons line rest ih =>
      refine Emits.bind ((Emits.send line).mapError _) ?_ ?_
      · rintro calls error ⟨answer, hresult, rfl⟩
        cases answer with
        | ok => exact nomatch hresult
        | error why => exact Or.inr ⟨[], line, rest, why, rfl, rfl, hresult⟩
      · rintro calls ⟨⟩ ⟨answer, hresult, rfl⟩
        cases answer with
        | error why => exact nomatch hresult
        | ok =>
            refine ih.weaken ?_
            rintro more result (⟨rfl, rfl⟩ | ⟨before, other, after, why, rfl, rfl, rfl⟩)
            · exact Or.inl ⟨rfl, rfl⟩
            · exact Or.inr ⟨line :: before, other, after, why, rfl, rfl, rfl⟩

/-- So a command is sent or is not. -/
theorem sendLines_single_emits (dialogue : Dialogue) (command : String) :
    Emits (dialogue.sendLines (σ := Recorded σ) [command]) (fun calls result =>
      (calls = [.send command (.ok ())] ∧ result = .ok ()) ∨
      ∃ error, calls = [.send command (.error error)] ∧
        result = .error (.session dialogue.name error)) := by
  refine (dialogue.sendLines_emits [command]).weaken ?_
  rintro calls result (hsent | ⟨before, line, after, error, hlines, rfl, hresult⟩)
  · exact Or.inl hsent
  · cases before with
    | nil =>
        obtain ⟨rfl, -⟩ := List.cons.inj hlines
        exact Or.inr ⟨error, rfl, hresult⟩
    | cons other rest =>
        -- there is no line behind the command
        have hrest := (List.cons.inj hlines).2
        exact absurd hrest.symm
          (List.append_ne_nil_of_right_ne_nil rest (List.cons_ne_nil line after))

/-- A wait finds one of the events, or it is the end of the run. -/
theorem awaitEvent_emits (dialogue : Dialogue)
    (inRange : Session.InRange σ dialogue.events)
    (state : Int) (limit : Duration) (going : state ≠ final) :
    Emits (dialogue.awaitEvent (σ := Recorded σ) state limit) (fun calls result =>
      (∃ found pattern, calls = [.expect dialogue.events limit (.ok found)] ∧
        dialogue.events[found.index]? = some pattern ∧ result = .ok found) ∨
      ∃ error, result = .error error ∧ Stop dialogue state limit none calls (.error error)) := by
  have hcall := Emits.expect (σ := σ) dialogue.events limit
    (fun answer => ∀ found, answer = .ok found → found.index < dialogue.events.length)
    (fun session files found h => inRange session files limit found h)
  refine (hcall.mapError _).weaken ?_
  rintro calls result ⟨answer, rfl, rfl, hrange⟩
  cases answer with
  | ok found =>
      have hlt := hrange found rfl
      exact Or.inl ⟨found, dialogue.events[found.index], rfl, List.getElem?_eq_getElem hlt, rfl⟩
  | error why =>
      refine Or.inr ⟨_, rfl, ?_⟩
      cases why with
      | timeout waited tail => exact .timeout going
      | connectionLost => exact .broken going (fun _ _ h => nomatch h)
      | notConnected => exact .broken going (fun _ _ h => nomatch h)
      | invalidUrl url => exact .broken going (fun _ _ h => nomatch h)
      | io error => exact .broken going (fun _ _ h => nomatch h)

/-- The action of a transition that fires has its lines sent, and only then has its say; or it is
    the end of the run. -/
theorem act_emits (dialogue : Dialogue) (limit : Duration) {fired : Fired}
    (going : fired.state ≠ final) (first : fired.First dialogue) :
    Emits (dialogue.act (σ := Recorded σ) fired.transition fired.state fired.found)
      (fun calls result =>
        (calls = sendings (fired.lines dialogue) ∧ fired.Accepted dialogue ∧ result = .ok ()) ∨
        ∃ error, result = .error error ∧
          Stop dialogue fired.state limit (some fired)
            (.expect dialogue.events limit (.ok fired.found) :: calls) (.error error)) := by
  have hresponse : fired.response dialogue = match fired.transition.action with
      | none => {}
      | some action => action ⟨dialogue.name, fired.state, fired.found.before, fired.found.text⟩ :=
    rfl
  cases haction : fired.transition.action with
  | none =>
      rw [haction] at hresponse
      simp only [act, haction]
      refine Emits.pure (Or.inl ⟨?_, ?_, rfl⟩)
      · rw [Fired.lines, hresponse]
        rfl
      · rw [Fired.Accepted, hresponse]
  | some action =>
      rw [haction] at hresponse
      simp only [act, haction]
      dsimp only at hresponse
      rw [← hresponse]
      refine Emits.afterHost _ (Emits.bind (dialogue.sendLines_emits _) ?_ ?_)
      · rintro calls error (⟨-, hresult⟩ | ⟨before, line, after, why, hlines, rfl, hresult⟩)
        · exact nomatch hresult
        · obtain rfl := Except.error.inj hresult
          exact Or.inr ⟨_, rfl, .unwritten going first hlines⟩
      · rintro calls ⟨⟩ (⟨rfl, -⟩ | ⟨_, _, _, _, -, -, hresult⟩)
        · -- the lines are sent, and only now it counts what the action has to say
          cases haccepts : (fired.response dialogue).accepts with
          | true => exact Emits.pure (Or.inl ⟨List.append_nil _, haccepts, rfl⟩)
          | false =>
              have hrefused : ¬ fired.Accepted dialogue := by
                rw [Fired.Accepted, haccepts]
                exact Bool.false_ne_true
              refine Emits.throw (Or.inr ⟨_, rfl, ?_⟩)
              rw [List.append_nil]
              exact .refused going first hrefused
        · exact nomatch hresult

/-- Sending lines tells the board nothing. -/
theorem sendLines_board (dialogue : Dialogue) (lines : List String) (link : Link σ) :
    (dialogue.sendLines lines link).2.host.board = link.host.board := by
  induction lines generalizing link with
  | nil => rfl
  | cons line rest ih =>
      rw [sendLines, Action.bind_apply]
      have hsend : (Link.mapError (DialogueError.session dialogue.name)
          (Link.call (Session.send line)) link).2.host.board = link.host.board := by
        simp only [Link.mapError, Link.call]
        cases (Session.send line link.session link.host.files).result with
        | ok => rfl
        | error why => rfl
      rcases hcall : Link.mapError (DialogueError.session dialogue.name)
        (Link.call (Session.send line)) link with ⟨error | _, sent⟩
      all_goals rw [hcall] at hsend
      · exact hsend
      · exact (ih sent).trans hsend

/-- A wait tells the board nothing. -/
theorem awaitEvent_board (dialogue : Dialogue) (state : Int) (limit : Duration) (link : Link σ) :
    (dialogue.awaitEvent state limit link).2.host.board = link.host.board := by
  simp only [awaitEvent, Link.mapError, Link.call]
  cases (Session.expect dialogue.events limit link.session link.host.files).result with
  | ok found => rfl
  | error why => rfl

/-- A transition that fires tells the board what its action tells it, however it goes on. -/
theorem act_board (dialogue : Dialogue) (fired : Fired) (link : Link σ) :
    (dialogue.act fired.transition fired.state fired.found link).2.host.board
      = link.host.board.takeAll (fired.notices dialogue) := by
  rw [Fired.notices, Fired.response, act]
  cases fired.transition.action with
  | none => rfl
  | some action =>
      dsimp only
      generalize action ⟨dialogue.name, fired.state, fired.found.before, fired.found.text⟩ = response
      -- the board is told before a line is sent, and the say of the action comes last
      have hsent := dialogue.sendLines_board (Effect.lines response.effects)
        { link with host := response.effects.foldl (Effect.apply dialogue.name) link.host }
      rw [Effect.board_foldl] at hsent
      rw [Action.bind_apply, Link.onHost]
      dsimp only
      rw [Action.bind_apply]
      rcases hcall : dialogue.sendLines (Effect.lines response.effects)
        { link with host := response.effects.foldl (Effect.apply dialogue.name) link.host }
        with ⟨error | _, sent⟩
      all_goals rw [hcall] at hsent
      · exact hsent
      · cases response.accepts with
        | true => exact hsent
        | false => exact hsent

/-- **THE LOOP**: the loop does what the relation allows, and tells the board what the transitions
    tell that have fired. -/
theorem follow_tells (dialogue : Dialogue)
    (inRange : Session.InRange σ dialogue.events)
    (waits : Nat) (state : Int) (limit : Duration) (going : state ≠ final) :
    Tells (dialogue.follow (σ := Recorded σ) waits state limit) (fun calls notices result =>
      ∃ fired, Goes dialogue state limit fired calls result ∧
        notices = fired.flatMap (Fired.notices dialogue)) := by
  induction waits generalizing state limit with
  | zero => exact Tells.throw ⟨[], .cutOff going, rfl⟩
  | succ waits ih =>
      have hwait := (dialogue.awaitEvent_emits inRange state limit going).told []
        fun link => dialogue.awaitEvent_board (σ := Recorded σ) state limit link
      refine Tells.bind hwait ?_ ?_
      · -- the wait is the end
        rintro calls notices error ⟨rfl, ⟨_, _, -, -, hresult⟩ | ⟨_, hresult, hstop⟩⟩
        · exact nomatch hresult
        · obtain rfl := Except.error.inj hresult
          exact ⟨[], .stop hstop, rfl⟩
      · rintro calls notices found ⟨rfl, ⟨_, pattern, rfl, hpattern, hresult⟩ | ⟨_, hresult, -⟩⟩
        · obtain rfl := Except.ok.inj hresult
          -- the index is that of a pattern, so the event has its text
          simp only [hpattern]
          cases htransition : dialogue.transition? pattern.text state with
          | none => exact Tells.throw ⟨[], .stop (.unexpected going hpattern htransition), rfl⟩
          | some transition =>
              let fired : Fired := ⟨state, found, transition⟩
              have hfirst : fired.First dialogue := first_of_transition? hpattern htransition
              have hact := (dialogue.act_emits limit going hfirst).told (fired.notices dialogue)
                fun link => dialogue.act_board (σ := Recorded σ) fired link
              refine Tells.afterLog _ _ (Tells.bind hact ?_ ?_)
              · rintro calls notices error ⟨rfl, ⟨-, -, hresult⟩ | ⟨_, hresult, hstop⟩⟩
                · exact nomatch hresult
                · obtain rfl := Except.error.inj hresult
                  exact ⟨[fired], .stop hstop, (List.flatMap_singleton ..).symm⟩
              · rintro calls notices ⟨⟩ ⟨rfl, ⟨rfl, haccepted, -⟩ | ⟨_, hresult, -⟩⟩
                · by_cases hfinal : transition.next = final
                  · -- the walk is over, and no further call is made
                    have harrived : Stop dialogue fired.transition.next
                        (fired.transition.limit.getD limit) none [] (.ok ()) := by
                      rw [show fired.transition.next = final from hfinal]
                      exact .arrived
                    rw [if_pos hfinal]
                    refine Tells.pure
                      ⟨[fired], .next going hfirst haccepted (.stop harrived), ?_⟩
                    rw [List.nil_append]
                    rfl
                  · rw [if_neg hfinal]
                    refine (ih transition.next (transition.limit.getD limit) hfinal).weaken ?_
                    rintro more told result ⟨later, hgoes, rfl⟩
                    exact ⟨fired :: later, .next going hfirst haccepted hgoes, rfl⟩
                · exact nomatch hresult
        · exact nomatch hresult

/-- What a run does: its command does not go out, or it goes on from the start. -/
inductive Runs (dialogue : Dialogue) (command : String) :
    List Fired → List Call → Except DialogueError Unit → Prop where
  | unsent (error : SessionError) :
      Runs dialogue command [] [.send command (.error error)]
        (.error (.session dialogue.name error))
  | sent {fired : List Fired} {calls : List Call} {result : Except DialogueError Unit} :
      Goes dialogue 0 dialogue.limit fired calls result →
      Runs dialogue command fired (.send command (.ok ()) :: calls) result

/-- **RUNS**: a run sends its command and goes through the loop. -/
theorem run_tells (dialogue : Dialogue) (inRange : Session.InRange σ dialogue.events)
    (waits : Nat) (command : String) :
    Tells (dialogue.run (σ := Recorded σ) waits command) (fun calls notices result =>
      ∃ fired, Runs dialogue command fired calls result ∧
        notices = fired.flatMap (Fired.notices dialogue)) := by
  have hcommand := (dialogue.sendLines_single_emits (σ := σ) command).told []
    fun link => dialogue.sendLines_board [command] link
  refine Tells.afterLog _ _ (Tells.bind hcommand ?_ ?_)
  · rintro calls notices error ⟨rfl, ⟨-, hresult⟩ | ⟨why, rfl, hresult⟩⟩
    · exact nomatch hresult
    · obtain rfl := Except.error.inj hresult
      exact ⟨[], .unsent why, rfl⟩
  · rintro calls notices ⟨⟩ ⟨rfl, ⟨rfl, -⟩ | ⟨_, -, hresult⟩⟩
    · refine (dialogue.follow_tells inRange waits 0 dialogue.limit (by decide)).weaken ?_
      rintro more told result ⟨fired, hgoes, rfl⟩
      exact ⟨fired, .sent hgoes, rfl⟩
    · exact nomatch hresult

/-! ## The waits allowed -/

/-- A walk that finishes with some waits does the same with more of them. -/
theorem follow_more (dialogue : Dialogue) (waits more : Nat) (state : Int) (limit : Duration)
    (link : Link σ)
    (finished : ∀ stuck, (dialogue.follow waits state limit link).1 ≠
      .error (.unfinished dialogue.name stuck)) :
    dialogue.follow (waits + more) state limit link = dialogue.follow waits state limit link := by
  induction waits generalizing state limit link with
  | zero => exact absurd rfl (finished state)
  | succ waits ih =>
      rw [Nat.succ_add]
      revert finished
      simp only [follow, Action.bind_apply]
      rcases dialogue.awaitEvent state limit link with ⟨error | found, waited⟩
      · exact fun _ => rfl
      · dsimp only
        cases dialogue.transition? _ state with
        | none => exact fun _ => rfl
        | some transition =>
            simp only [Action.bind_apply]
            rcases Link.log _ _ waited with ⟨error | _, logged⟩
            · exact fun _ => rfl
            · dsimp only
              rcases dialogue.act transition state found logged with ⟨error | _, acted⟩
              · exact fun _ => rfl
              · dsimp only
                by_cases hfinal : transition.next = final
                · rw [if_pos hfinal, if_pos hfinal]
                  exact fun _ => rfl
                · rw [if_neg hfinal, if_neg hfinal]
                  exact ih _ _ acted

/-- **WAITS**: how many waits a dialogue is allowed does not matter if it finishes. -/
theorem run_more (dialogue : Dialogue) (waits more : Nat) (command : String) (link : Link σ)
    (finished : ∀ state, (dialogue.run waits command link).1 ≠
      .error (.unfinished dialogue.name state)) :
    dialogue.run (waits + more) command link = dialogue.run waits command link := by
  revert finished
  simp only [run, Action.bind_apply]
  rcases Link.log _ _ link with ⟨error | _, logged⟩
  · exact fun _ => rfl
  · dsimp only
    rcases dialogue.sendLines [command] logged with ⟨error | _, sent⟩
    · exact fun _ => rfl
    · dsimp only
      exact dialogue.follow_more waits more 0 dialogue.limit sent

/-! ## Recording a dialogue -/

theorem sendLines_erases (dialogue : Dialogue) (lines : List String) :
    Erases (dialogue.sendLines (σ := Recorded σ) lines) (dialogue.sendLines lines) := by
  induction lines with
  | nil => exact .pure ()
  | cons line rest ih => exact .bind (.mapError _ (.send line)) (fun _ => ih)

theorem act_erases (dialogue : Dialogue) (transition : Transition) (state : Int) (found : Match) :
    Erases (dialogue.act (σ := Recorded σ) transition state found)
      (dialogue.act transition state found) := by
  simp only [act]
  cases transition.action with
  | none => exact .pure ()
  | some action =>
      refine .bind (.onHost _) (fun _ => .bind (dialogue.sendLines_erases _) (fun _ => ?_))
      cases (action ⟨dialogue.name, state, found.before, found.text⟩).accepts with
      | true => exact .pure ()
      | false => exact .throw _

theorem follow_erases (dialogue : Dialogue) (waits : Nat) (state : Int) (limit : Duration) :
    Erases (dialogue.follow (σ := Recorded σ) waits state limit)
      (dialogue.follow waits state limit) := by
  induction waits generalizing state limit with
  | zero => exact .throw _
  | succ waits ih =>
      refine .bind (.mapError _ (.expect dialogue.events limit)) ?_
      intro found
      dsimp only
      split
      · exact .throw _
      · next transition _ =>
        refine .bind (.onHost _) (fun _ => .bind (dialogue.act_erases _ _ _) (fun _ => ?_))
        split
        · exact .pure ()
        · exact ih _ _

/-- **RECORDING**: a recorded dialogue is the dialogue. -/
theorem run_erases (dialogue : Dialogue) (waits : Nat) (command : String) :
    Erases (dialogue.run (σ := Recorded σ) waits command) (dialogue.run waits command) :=
  .bind (.onHost _) (fun _ =>
    .bind (dialogue.sendLines_erases [command]) (fun _ => dialogue.follow_erases _ _ _))

/-- So it comes to the same, and leaves the same link. -/
theorem run_recording (dialogue : Dialogue) (waits : Nat) (command : String) (link : Link σ) :
    dialogue.run waits command link = ((dialogue.run waits command link.recording).1,
      (dialogue.run waits command link.recording).2.erased) := by
  have herased := dialogue.run_erases waits command link.recording
  rwa [Link.erased_recording] at herased

theorem run_recording_host (dialogue : Dialogue) (waits : Nat) (command : String)
    (link : Link σ) : (dialogue.run waits command link.recording).2.host
      = (dialogue.run waits command link).2.host :=
  (congrArg (·.2.host) (dialogue.run_recording waits command link)).symm

/-- The calls that a run gives its session: they are on the record of the same run over the
    recorded session, which comes to the same. -/
def Records (dialogue : Dialogue) (waits : Nat) (command : String) (link : Link σ)
    (calls : List Call) : Prop :=
  ∃ recorded : Link (Recorded σ),
    dialogue.run waits command link.recording = ((dialogue.run waits command link).1, recorded) ∧
    recorded.erased = (dialogue.run waits command link).2 ∧ recorded.session.calls = calls

/-- What is on the record behind a run that was recorded from the beginning. -/
theorem records_of_calls {dialogue : Dialogue} {waits : Nat} {command : String} {link : Link σ}
    {calls : List Call}
    (h : (dialogue.run waits command link.recording).2.session.calls = calls) :
    dialogue.Records waits command link calls := by
  have hrecording := dialogue.run_recording waits command link
  exact ⟨_, Prod.ext (congrArg Prod.fst hrecording).symm rfl, (congrArg Prod.snd hrecording).symm, h⟩

/-- **RECORD**: what is on the record of a run, and what the run has told the board. -/
theorem run_records (dialogue : Dialogue) (waits : Nat) (command : String) (link : Link σ)
    (inRange : Session.InRange σ dialogue.events) :
    ∃ calls fired, dialogue.Records waits command link calls ∧
      Runs dialogue command fired calls (dialogue.run waits command link).1 ∧
      (dialogue.run waits command link).2.host.board
        = link.host.board.takeAll (fired.flatMap (Fired.notices dialogue)) := by
  obtain ⟨calls, notices, hcalls, hboard, fired, hruns, rfl⟩ :=
    dialogue.run_tells inRange waits command link.recording
  refine ⟨calls, fired, records_of_calls hcalls, ?_, ?_⟩
  · rw [dialogue.run_recording waits command link]
    exact hruns
  · rw [dialogue.run_recording waits command link]
    exact hboard

end Dialogue

end Upkeep
