import Upkeep.Proofs.Dialogue.Walk

/-! # Waits — what is behind a dialogue when it waits

    A dialogue waits, and what it does then depends on what it has found before.
    So the record of a run is taken apart at a wait (`Runs.wait`): in front of it
    there is a walk and nothing else, and the wait is either a step of a longer
    walk or the last one.

    The limit of a wait is handed from transition to transition.  A transition
    with a limit of its own replaces it, and the others hand it on as it is; so it
    is the limit that was set last (`governing`). -/

namespace Upkeep.Dialogue

variable {dialogue : Dialogue}

/-! ## Records that are taken apart -/

/-- There is no wait among some calls. -/
def Waitless (calls : List Call) : Prop :=
  ∀ patterns limit answer, Call.expect patterns limit answer ∉ calls

theorem waitless_sendings (lines : List String) : Waitless (sendings lines) := by
  intro patterns limit answer hmem
  obtain ⟨line, -, hline⟩ := List.mem_map.mp hmem
  exact nomatch hline

/-- A call on two records in a row is on the first one or on the second one. -/
theorem append_cases {first second before after : List Call} {call : Call}
    (h : first ++ second = before ++ call :: after) :
    (∃ rest, first = before ++ call :: rest ∧ after = rest ++ second) ∨
    ∃ rest, before = first ++ rest ∧ second = rest ++ call :: after := by
  rcases List.append_eq_append_iff.mp h with ⟨rest, hbefore, hsecond⟩ | ⟨rest, hfirst, hafter⟩
  · exact Or.inr ⟨rest, hbefore, hsecond⟩
  · cases rest with
    | nil => exact Or.inr ⟨[], by rw [hfirst, List.append_nil, List.append_nil], hafter.symm⟩
    | cons other rest =>
        obtain ⟨rfl, hrest⟩ := List.cons.inj hafter
        exact Or.inl ⟨rest, hfirst, hrest⟩

theorem ne_nil_of_call {before after : List Call} {call : Call} :
    [] ≠ before ++ call :: after :=
  (List.append_ne_nil_of_right_ne_nil before (List.cons_ne_nil call after)).symm

/-- A wait on a record that begins with one, and then has others for a while, is the first call or
    comes later. -/
theorem wait_cases {first : Call} {quiet calls before after : List Call}
    {patterns : List Pattern} {limit : Duration} {answer : Except SessionError Match}
    (hquiet : Waitless quiet)
    (hsplit : first :: (quiet ++ calls) = before ++ .expect patterns limit answer :: after) :
    (before = [] ∧ first = .expect patterns limit answer) ∨
    ∃ rest, before = first :: (quiet ++ rest) ∧
      calls = rest ++ .expect patterns limit answer :: after := by
  cases before with
  | nil => exact Or.inl ⟨rfl, (List.cons.inj hsplit).1⟩
  | cons other before =>
      obtain ⟨rfl, hrest⟩ := List.cons.inj hsplit
      rcases append_cases hrest with ⟨rest, hmem, -⟩ | ⟨rest, rfl, hcalls⟩
      · refine absurd ?_ (hquiet patterns limit answer)
        rw [hmem]
        exact List.mem_append_right before List.mem_cons_self
      · exact Or.inr ⟨rest, rfl, hcalls⟩

/-- At a stop there is one wait at most, and it comes first. -/
theorem Stop.wait {state : Int} {limit patience : Duration} {last : Option Fired}
    {calls before after : List Call} {patterns : List Pattern}
    {answer : Except SessionError Match} {result : Except DialogueError Unit}
    (h : Stop dialogue state limit last calls result)
    (hsplit : calls = before ++ .expect patterns patience answer :: after) :
    before = [] ∧ state ≠ final ∧ patterns = dialogue.events ∧ patience = limit := by
  -- whatever the stop is, a wait is followed by sendings alone
  have hlone (going : state ≠ final) {found : Except SessionError Match} {quiet : List Call}
      (hquiet : Waitless quiet)
      (hsplit : .expect dialogue.events limit found :: quiet
        = before ++ .expect patterns patience answer :: after) :
      before = [] ∧ state ≠ final ∧ patterns = dialogue.events ∧ patience = limit := by
    rw [← List.append_nil quiet] at hsplit
    rcases wait_cases hquiet hsplit with ⟨rfl, hwait⟩ | ⟨rest, -, hrest⟩
    · injection hwait with hpatterns hlimit _
      exact ⟨rfl, going, hpatterns.symm, hlimit.symm⟩
    · exact absurd hrest ne_nil_of_call
  have hnone : Waitless [] := fun _ _ _ hmem => nomatch hmem
  cases h with
  | arrived => exact absurd hsplit ne_nil_of_call
  | timeout going => exact hlone going hnone hsplit
  | broken going _ => exact hlone going hnone hsplit
  | unexpected going _ _ => exact hlone going hnone hsplit
  | @unwritten _ _ lines _ line error going _ _ =>
      refine hlone going ?_ hsplit
      intro patterns limit answer hmem
      rcases List.mem_append.mp hmem with hsent | hunsent
      · exact waitless_sendings lines _ _ _ hsent
      · exact nomatch List.mem_singleton.mp hunsent
  | refused going _ _ => exact hlone going (waitless_sendings _) hsplit

/-- A dialogue that waits has walked up to the wait, and goes on from there. -/
theorem Goes.wait {start : Int} {initial limit : Duration} {fired : List Fired}
    {calls before after : List Call} {patterns : List Pattern}
    {answer : Except SessionError Match} {result : Except DialogueError Unit}
    (h : Goes dialogue start initial fired calls result)
    (hsplit : calls = before ++ .expect patterns limit answer :: after) :
    ∃ done later state, fired = done ++ later ∧ state ≠ final ∧ patterns = dialogue.events ∧
      Walks dialogue start initial done before state limit ∧
      Goes dialogue state limit later (.expect patterns limit answer :: after) result := by
  induction h generalizing before with
  | stop hstop =>
      obtain ⟨rfl, going, hpatterns, rfl⟩ := hstop.wait hsplit
      rw [hsplit] at hstop
      exact ⟨[], _, _, rfl, going, hpatterns, .nil, .stop hstop⟩
  | cutOff => exact absurd hsplit ne_nil_of_call
  | @next initial fired later calls result going hfirst haccepted hgoes ih =>
      have hgoes' : Goes dialogue fired.state initial _ _ _ :=
        .next going hfirst haccepted hgoes
      rcases wait_cases (waitless_sendings _) hsplit with ⟨rfl, hwait⟩ | ⟨rest, rfl, hrest⟩
      · -- the wait is that of this transition
        rw [hsplit] at hgoes'
        injection hwait with hpatterns hlimit _
        subst hlimit
        exact ⟨[], _, _, rfl, going, hpatterns.symm, .nil, hgoes'⟩
      · obtain ⟨done, later, state, rfl, hstate, hpatterns, hwalks, hlater⟩ := ih hrest
        exact ⟨fired :: done, later, state, rfl, hstate, hpatterns,
          .cons going hfirst haccepted hwalks, hlater⟩

/-- What is behind a dialogue when it waits in a state: its command, and a walk. -/
structure Behind (dialogue : Dialogue) (command : String) (done : List Fired) (state : Int)
    (limit : Duration) (before : List Call) : Prop where
  going : state ≠ final
  walked : ∃ calls, before = .send command (.ok ()) :: calls ∧
    Walks dialogue 0 dialogue.limit done calls state limit

/-- **WAIT**: when a dialogue waits, there is a walk behind it, and the rest of the run begins with
    the wait. -/
theorem Runs.wait {command : String} {fired : List Fired} {calls before after : List Call}
    {result : Except DialogueError Unit} {patterns : List Pattern} {limit : Duration}
    {answer : Except SessionError Match} (h : Runs dialogue command fired calls result)
    (hsplit : calls = before ++ .expect patterns limit answer :: after) :
    ∃ done later state, fired = done ++ later ∧ patterns = dialogue.events ∧
      Behind dialogue command done state limit before ∧
      Goes dialogue state limit later (.expect patterns limit answer :: after) result := by
  have hnone : Waitless [] := fun _ _ _ hmem => nomatch hmem
  cases h with
  | unsent why =>
      have hsingle : .send command (.error why) :: ([] ++ [])
          = before ++ .expect patterns limit answer :: after := hsplit
      rcases wait_cases hnone hsingle with ⟨-, hwait⟩ | ⟨rest, -, hrest⟩
      · exact nomatch hwait
      · exact absurd hrest ne_nil_of_call
  | sent hgoes =>
      rcases wait_cases hnone hsplit with ⟨-, hwait⟩ | ⟨rest, rfl, hrest⟩
      · exact nomatch hwait
      · obtain ⟨done, later, state, rfl, going, hpatterns, hwalks, hlater⟩ := hgoes.wait hrest
        exact ⟨done, later, state, rfl, hpatterns, ⟨going, rest, rfl, hwalks⟩, hlater⟩

/-- What a dialogue does about an event that it finds in a state: a transition fires and the dialogue
    goes on, or it is over because the transition is not accepted, or its lines do not all go out, or
    there is none. -/
inductive Reaction (dialogue : Dialogue) (state : Int) (limit : Duration) (found : Match) :
    List Fired → List Call → Except DialogueError Unit → Prop where
  | goes {fired : Fired} {later : List Fired} {calls : List Call}
      {result : Except DialogueError Unit} :
      fired.state = state → fired.found = found → fired.First dialogue → fired.Accepted dialogue →
      Goes dialogue fired.transition.next (fired.transition.limit.getD limit) later calls result →
      Reaction dialogue state limit found (fired :: later)
        (sendings (fired.lines dialogue) ++ calls) result
  | refused {fired : Fired} :
      fired.state = state → fired.found = found → fired.First dialogue →
      ¬ fired.Accepted dialogue →
      Reaction dialogue state limit found [fired] (sendings (fired.lines dialogue))
        (.error (.actionFailed dialogue.name fired.transition.event state))
  | unwritten {fired : Fired} {sent unsent : List String} {line : String} {error : SessionError} :
      fired.First dialogue → fired.lines dialogue = sent ++ line :: unsent →
      Reaction dialogue state limit found [fired] (sendings sent ++ [.send line (.error error)])
        (.error (.session dialogue.name error))
  | unexpected {pattern : Pattern} :
      dialogue.events[found.index]? = some pattern →
      dialogue.transition? pattern.text state = none →
      Reaction dialogue state limit found [] []
        (.error (.unexpectedEvent dialogue.name pattern.text state))

/-- **REACTION**: a dialogue that finds an event reacts to it. -/
theorem Goes.reaction {state : Int} {limit patience : Duration} {later : List Fired}
    {calls after : List Call} {patterns : List Pattern} {found : Match}
    {result : Except DialogueError Unit} (h : Goes dialogue state limit later calls result)
    (hcalls : calls = .expect patterns patience (.ok found) :: after) :
    Reaction dialogue state limit found later after result := by
  cases h with
  | cutOff => exact nomatch hcalls
  | next _ hfirst haccepted hgoes =>
      obtain ⟨hwait, rfl⟩ := List.cons.inj hcalls
      injection hwait with _ _ hfound
      exact .goes rfl (Except.ok.inj hfound) hfirst haccepted hgoes
  | stop hstop =>
      cases hstop with
      | arrived => exact nomatch hcalls
      | timeout => exact nomatch hcalls
      | broken => exact nomatch hcalls
      | unexpected _ hpattern hnone =>
          obtain ⟨hwait, rfl⟩ := List.cons.inj hcalls
          injection hwait with _ _ hfound
          obtain rfl := Except.ok.inj hfound
          exact .unexpected hpattern hnone
      | unwritten _ hfirst hlines =>
          obtain ⟨-, rfl⟩ := List.cons.inj hcalls
          exact .unwritten hfirst hlines
      | refused _ hfirst hrefused =>
          obtain ⟨hwait, rfl⟩ := List.cons.inj hcalls
          injection hwait with _ _ hfound
          exact .refused rfl (Except.ok.inj hfound) hfirst hrefused

/-- At the end nothing is done any more. -/
theorem Goes.of_final {limit : Duration} {later : List Fired} {calls : List Call}
    {result : Except DialogueError Unit} (h : Goes dialogue final limit later calls result) :
    later = [] ∧ calls = [] ∧ result = .ok () := by
  generalize hstate : final = state at h
  cases h with
  | cutOff going => exact absurd hstate.symm going
  | next going => exact absurd hstate.symm going
  | stop hstop =>
      cases hstop with
      | arrived => exact ⟨rfl, rfl, rfl⟩
      | timeout going => exact absurd hstate.symm going
      | broken going _ => exact absurd hstate.symm going
      | unexpected going _ _ => exact absurd hstate.symm going
      | unwritten going _ _ => exact absurd hstate.symm going
      | refused going _ _ => exact absurd hstate.symm going

/-! ## Limits -/

/-- The limit of a wait behind some transitions that have fired: that of the latest of them that
    has one of its own, or the one to begin with if none of them has. -/
def governing (initial : Duration) (fired : List Fired) : Duration :=
  (fired.filterMap (·.transition.limit)).getLastD initial

theorem governing_cons (initial : Duration) (first : Fired) (rest : List Fired) :
    governing initial (first :: rest) = governing (first.transition.limit.getD initial) rest := by
  rw [governing, governing, List.filterMap_cons]
  cases first.transition.limit with
  | none => rfl
  | some limit => rw [List.getLastD_cons]; rfl

theorem governing_concat (initial : Duration) (earlier : List Fired) (last : Fired) :
    governing initial (earlier ++ [last])
      = last.transition.limit.getD (governing initial earlier) := by
  induction earlier generalizing initial with
  | nil => rw [List.nil_append, governing_cons]; rfl
  | cons first rest ih => rw [List.cons_append, governing_cons, governing_cons, ih]

/-- The limit behind a walk is that of the latest transition with one. -/
theorem Walks.waiting_eq {state last : Int} {limit waiting : Duration} {done : List Fired}
    {calls : List Call} (h : Walks dialogue state limit done calls last waiting) :
    waiting = governing limit done := by
  induction h with
  | nil => rfl
  | cons _ _ _ _ ih => rw [governing_cons, ih]

/-- How a dialogue waits, behind some transitions that have fired and some calls. -/
structure Governed (dialogue : Dialogue) (command : String) (done : List Fired)
    (before : List Call) (limit : Duration) : Prop where
  /-- The limit is that of the latest transition with one, or else the dialogue's own. -/
  limit_eq : limit = governing dialogue.limit done
  /-- A transition without a limit leaves the limit as it was. -/
  kept : ∀ earlier last, done = earlier ++ [last] → last.transition.limit = none →
    limit = governing dialogue.limit earlier
  /-- There has been no error: all calls have succeeded, the waits among them have found the events
      of these transitions and no other, and all of their actions have been accepted. -/
  smooth : Smooth dialogue [command] done before
  /-- The transitions have not led to the end. -/
  going : ∃ state, Path dialogue 0 done state ∧ state ≠ final

/-- What is behind a wait governs its limit. -/
theorem Behind.governed {command : String} {done : List Fired} {state : Int} {limit : Duration}
    {before : List Call} (h : Behind dialogue command done state limit before) :
    Governed dialogue command done before limit := by
  obtain ⟨going, calls, rfl, hwalks⟩ := h
  refine ⟨hwalks.waiting_eq, ?_, hwalks.smooth.sent command, state, hwalks.path, going⟩
  rintro earlier last rfl hnone
  rw [hwalks.waiting_eq, governing_concat, hnone]
  rfl

variable {σ : Type} [Session σ]

/-- **LIMITS**: whatever a session answers, each wait of a run has the limit of the latest
    transition that has fired before it and has one of its own, or the dialogue's if there is none.
    Nothing is waited for behind an error or at the end. -/
theorem run_limits (dialogue : Dialogue) (waits : Nat) (command : String) (link : Link σ)
    (inRange : Session.InRange σ dialogue.events) :
    ∃ calls fired state, dialogue.Records waits command link calls ∧
      Walked dialogue command fired state calls (dialogue.run waits command link).1 ∧
      ∀ before patterns limit answer after,
        calls = before ++ .expect patterns limit answer :: after →
          patterns = dialogue.events ∧
          ∃ done, done <+: fired ∧ Governed dialogue command done before limit := by
  obtain ⟨calls, fired, hrecords, hruns, -⟩ := dialogue.run_records waits command link inRange
  obtain ⟨state, hwalked⟩ := hruns.walked
  refine ⟨calls, fired, state, hrecords, hwalked, ?_⟩
  intro before patterns limit answer after hsplit
  obtain ⟨done, later, here, rfl, hpatterns, hbehind, -⟩ := hruns.wait hsplit
  exact ⟨hpatterns, done, List.prefix_append _ _, hbehind.governed⟩

/-- A dialogue in stages, of which the first and the third set a limit. -/
def staged : Dialogue where
  name := "staged"
  events := ["A", "B", "C", "D"].map .ofText
  transitions := [
    { event := "A", sources := [0], next := 1, limit := some (.ofSecs 30) },
    { event := "B", sources := [1], next := 2 },
    { event := "C", sources := [2], next := 3, limit := some (.ofSecs 90) },
    { event := "D", sources := [3], next := final }]
  limit := .ofSecs 5

/-- A device that goes through all stages. -/
def stagedDevice : Link Replay where
  session := ({} : Replay).reply "go" "ABCD".toList
  host := { files := { root := "/" } }

/-- The dialogue comes to its end, and the second stage is waited for as long as the third one. -/
theorem staged_limits :
    Session.InRange Replay staged.events ∧
      (staged.run 10 "go" stagedDevice).2.session.log.waits
        = [.ofSecs 5, .ofSecs 30, .ofSecs 30, .ofSecs 90] ∧
      ∃ calls fired state, staged.Records 10 "go" stagedDevice calls ∧
        Walked staged "go" fired state calls (.ok ()) ∧
        ∀ before patterns limit answer after,
          calls = before ++ .expect patterns limit answer :: after →
            patterns = staged.events ∧
            ∃ done, done <+: fired ∧ Governed staged "go" done before limit := by
  have hresult : (staged.run 10 "go" stagedDevice).1 = .ok () := rfl
  have h := run_limits staged 10 "go" stagedDevice (Replay.inRange _)
  rw [hresult] at h
  exact ⟨Replay.inRange _, by decide +kernel, h⟩

end Upkeep.Dialogue
