import Upkeep.Proofs.Dialogue.Table
import Upkeep.Proofs.Session.Buffer

/-! # Refinement — what a finished dialogue has done

    `Follows` is exact and has as many cases as a dialogue has ends.  Here it is
    read off: which transitions fired and which states they led through, which
    lines were written, and what the result says (`Refines`).

    Everything before the `Stop` went well (`Smooth`), so only the last few
    calls have to be looked at case by case. -/

namespace Upkeep

namespace Dialogue

variable {dialogue : Dialogue}

/-! ## Calls that go well -/

theorem lines_sendings (lines : List String) :
    (sendings lines).filterMap Call.line? = lines := by
  induction lines with
  | nil => rfl
  | cons line rest ih => exact congrArg (line :: ·) ih

theorem found_sendings (lines : List String) :
    (sendings lines).filterMap Call.found? = [] := by
  induction lines with
  | nil => rfl
  | cons line rest ih => exact ih

theorem succeed_sendings (lines : List String) :
    ∀ call ∈ sendings lines, call.failure? = none := by
  intro call hcall
  obtain ⟨line, -, rfl⟩ := List.mem_map.mp hcall
  rfl

theorem lines_calls (limit : Duration) (fired : Fired) :
    (dialogue.calls limit fired).filterMap Call.line? = fired.lines dialogue :=
  lines_sendings (fired.lines dialogue)

theorem found_calls (limit : Duration) (fired : Fired) :
    (dialogue.calls limit fired).filterMap Call.found? = [fired.found] :=
  congrArg (fired.found :: ·) (found_sendings (fired.lines dialogue))

theorem succeed_calls (limit : Duration) (fired : Fired) :
    ∀ call ∈ dialogue.calls limit fired, call.failure? = none := by
  intro call hcall
  rcases List.mem_cons.mp hcall with rfl | hsend
  · rfl
  · exact succeed_sendings _ call hsend

/-- Transitions that fire and are accepted, with their calls: all calls succeed, what is found
    are the events, and what is written are the lines behind those queued before. -/
structure Smooth (dialogue : Dialogue) (queue : List String) (done : List Fired)
    (calls : List Call) : Prop where
  accepted : ∀ fired ∈ done, fired.Accepted dialogue
  succeed : ∀ call ∈ calls, call.failure? = none
  found : calls.filterMap Call.found? = done.map Fired.found
  lines : calls.filterMap Call.line? = queue ++ done.flatMap (Fired.lines dialogue)

/-- One transition more in front. -/
theorem Smooth.cons {fired : Fired} {done : List Fired} {calls : List Call} (limit : Duration)
    (accepted : fired.Accepted dialogue) (h : Smooth dialogue [] done calls) :
    Smooth dialogue [] (fired :: done) (dialogue.calls limit fired ++ calls) where
  accepted := by
    intro other hother
    rcases List.mem_cons.mp hother with rfl | hmem
    · exact accepted
    · exact h.accepted other hmem
  succeed := by
    intro call hcall
    rcases List.mem_append.mp hcall with hhead | htail
    · exact succeed_calls limit fired call hhead
    · exact h.succeed call htail
  found := by
    rw [List.filterMap_append, found_calls, h.found]
    rfl
  lines := by
    rw [List.filterMap_append, lines_calls, h.lines]
    rfl

/-- A line that is written in front. -/
theorem Smooth.sent {done : List Fired} {calls : List Call} (line : String)
    (h : Smooth dialogue [] done calls) :
    Smooth dialogue [line] done (.send line (.ok ()) :: calls) where
  accepted := h.accepted
  succeed := by
    intro call hcall
    rcases List.mem_cons.mp hcall with rfl | hmem
    · rfl
    · exact h.succeed call hmem
  found := h.found
  lines := congrArg (line :: ·) h.lines

/-- Two walks in a row. -/
theorem Path.append {start mid last : Int} {done rest : List Fired}
    (h : Path dialogue start done mid) (hrest : Path dialogue mid rest last) :
    Path dialogue start (done ++ rest) last := by
  induction h with
  | nil => exact hrest
  | cons hfirst going _ ih => exact .cons hfirst going (ih hrest)

/-- What is walked is a path. -/
theorem Walks.path {state last : Int} {limit waiting : Duration} {done : List Fired}
    {calls : List Call} (h : Walks dialogue state limit done calls last waiting) :
    Path dialogue state done last := by
  induction h with
  | nil => exact .nil _
  | cons going hfirst _ _ ih => exact .cons hfirst going ih

/-- On a walk all goes well. -/
theorem Walks.smooth {state last : Int} {limit waiting : Duration} {done : List Fired}
    {calls : List Call} (h : Walks dialogue state limit done calls last waiting) :
    Smooth dialogue [] done calls := by
  induction h with
  | nil =>
      refine ⟨?_, ?_, rfl, rfl⟩
      · exact fun fired hfired => nomatch hfired
      · exact fun call hcall => nomatch hcall
  | cons _ _ haccepted _ ih => exact ih.cons _ haccepted

/-- **SPLIT**: what a dialogue does is a walk, and then the stop. -/
theorem Follows.split {state : Int} {limit : Duration} {done : List Fired} {last : Option Fired}
    {calls : List Call} {result : Except DialogueError Unit}
    (h : Follows dialogue state limit done last calls result) :
    ∃ stop waiting before after, calls = before ++ after ∧
      Walks dialogue state limit done before stop waiting ∧
      Stop dialogue stop waiting last after result := by
  induction h with
  | stop hstop => exact ⟨_, _, [], _, rfl, .nil, hstop⟩
  | next going hfirst haccepted _ ih =>
      obtain ⟨stop, waiting, before, after, rfl, hwalks, hstop⟩ := ih
      exact ⟨stop, waiting, _, after, (List.append_assoc _ _ _).symm,
        .cons going hfirst haccepted hwalks, hstop⟩

/-! ## What is read off -/

/-- The state that a stop leads to: that of the transition that fires last, if there is one. -/
def arrival (state : Int) : Option Fired → Int
  | none => state
  | some fired => fired.transition.next

/-- Why a dialogue fails after some transitions have fired, in a state and with some calls. -/
inductive Failure (dialogue : Dialogue) (fired : List Fired) (state : Int) (calls : List Call) :
    DialogueError → Prop where
  /-- The last call is a wait in vain. -/
  | timeout {before : List Call} {limit waited : Duration} {tail : Text} :
      calls = before ++ [.expect dialogue.events limit (.error (.timeout waited tail))] →
      Failure dialogue fired state calls (.timeout dialogue.name state tail)
  /-- The last call finds an event that no transition is for in the state. -/
  | unexpected {before : List Call} {limit : Duration} {found : Match} {pattern : Pattern} :
      calls = before ++ [.expect dialogue.events limit (.ok found)] →
      before.filterMap Call.found? = fired.map Fired.found →
      dialogue.events[found.index]? = some pattern →
      (∀ transition ∈ dialogue.transitions,
        ¬ (transition.event = pattern.text ∧ state ∈ transition.sources)) →
      Failure dialogue fired state calls (.unexpectedEvent dialogue.name pattern.text state)
  /-- The last transition is not accepted, after its lines have been written. -/
  | refused {earlier : List Fired} {last : Fired} :
      fired = earlier ++ [last] → ¬ last.Accepted dialogue →
      (∀ call ∈ calls, call.failure? = none) →
      Failure dialogue fired state calls
        (.actionFailed dialogue.name last.transition.event last.state)
  /-- The last call fails otherwise. -/
  | session {before : List Call} {call : Call} {error : SessionError} :
      calls = before ++ [call] → call.failure? = some error →
      (∀ limit waited tail,
        call ≠ .expect dialogue.events limit (.error (.timeout waited tail))) →
      Failure dialogue fired state calls (.session dialogue.name error)

/-- Whether a write fails among some calls. -/
def WriteFails (calls : List Call) : Prop := ∃ line error, Call.send line (.error error) ∈ calls

/-- What a dialogue that is over has done since it was in the state `start` with some lines in
    the `queue`: `fired` are the transitions that have fired, `state` is the state they lead to,
    and `calls` are the calls to the session. -/
structure Refines (dialogue : Dialogue) (start : Int) (queue : List String) (fired : List Fired)
    (state : Int) (calls : List Call) (result : Except DialogueError Unit) : Prop where
  /-- Each transition is the first for its event and state, and none fires in the final state. -/
  path : Path dialogue start fired state
  /-- Their events are those that were found, but for one that is unexpected. -/
  found : calls.filterMap Call.found? = fired.map Fired.found ∨
    ∃ found event, calls.filterMap Call.found? = fired.map Fired.found ++ [found] ∧
      result = .error (.unexpectedEvent dialogue.name event state)
  /-- The lines written are those in the queue and those that the transitions queue, in order. -/
  lines : calls.filterMap Call.line? <+: queue ++ fired.flatMap (Fired.lines dialogue)
  /-- They are all of these unless a write fails. -/
  written : ¬ WriteFails calls →
    calls.filterMap Call.line? = queue ++ fired.flatMap (Fired.lines dialogue)
  /-- Nothing is done after a call that fails. -/
  ends : ∀ call ∈ calls.dropLast, call.failure? = none
  /-- All is well exactly in the final state, with all transitions accepted and all lines
      written. -/
  ok_iff : result = .ok () ↔
    state = final ∧ (∀ transition ∈ fired, transition.Accepted dialogue) ∧ ¬ WriteFails calls
  /-- What is wrong otherwise. -/
  failure : ∀ error, result = .error error → Failure dialogue fired state calls error

/-- Calls that succeed hold no write that fails. -/
theorem not_writeFails {calls : List Call} (h : ∀ call ∈ calls, call.failure? = none) :
    ¬ WriteFails calls := by
  rintro ⟨line, error, hmem⟩
  exact nomatch h _ hmem

/-- A walk on which all goes well does not change why a dialogue fails later. -/
theorem Failure.after {done fired : List Fired} {state : Int} {queue : List String}
    {before calls : List Call} {error : DialogueError} (hsmooth : Smooth dialogue queue done before)
    (h : Failure dialogue fired state calls error) :
    Failure dialogue (done ++ fired) state (before ++ calls) error := by
  cases h with
  | timeout hcalls => exact .timeout (by rw [hcalls, List.append_assoc])
  | unexpected hcalls hfound hpattern hnone =>
      refine .unexpected (by rw [hcalls, List.append_assoc]) ?_ hpattern hnone
      rw [List.filterMap_append, hsmooth.found, hfound, List.map_append]
  | refused hfired hrefused hsucceed =>
      refine .refused (by rw [hfired, List.append_assoc]) hrefused ?_
      intro call hcall
      rcases List.mem_append.mp hcall with hbefore | hafter
      · exact hsmooth.succeed call hbefore
      · exact hsucceed call hafter
  | session hcalls hfails hwait =>
      exact .session (by rw [hcalls, List.append_assoc]) hfails hwait

/-- A write fails behind calls that succeed exactly if it fails in the calls that follow. -/
theorem writeFails_append {before calls : List Call}
    (h : ∀ call ∈ before, call.failure? = none) :
    WriteFails (before ++ calls) ↔ WriteFails calls := by
  constructor
  · rintro ⟨line, error, hmem⟩
    rcases List.mem_append.mp hmem with hbefore | hafter
    · exact nomatch h _ hbefore
    · exact ⟨line, error, hafter⟩
  · rintro ⟨line, error, hmem⟩
    exact ⟨line, error, List.mem_append_right before hmem⟩

/-- **BEHIND**: what is done behind a walk on which all goes well. -/
theorem Smooth.refines {start mid state : Int} {queue : List String} {done fired : List Fired}
    {before calls : List Call} {result : Except DialogueError Unit}
    (hsmooth : Smooth dialogue queue done before) (hpath : Path dialogue start done mid)
    (h : Refines dialogue mid [] fired state calls result) :
    Refines dialogue start queue (done ++ fired) state (before ++ calls) result where
  path := hpath.append h.path
  found := by
    rw [List.filterMap_append, hsmooth.found, List.map_append]
    rcases h.found with hfound | ⟨found, event, hfound, hresult⟩
    · exact Or.inl (by rw [hfound])
    · exact Or.inr ⟨found, event, by rw [hfound, List.append_assoc], hresult⟩
  lines := by
    rw [List.filterMap_append, hsmooth.lines, List.flatMap_append, ← List.append_assoc]
    exact (List.prefix_append_right_inj _).mpr h.lines
  written := by
    intro hwrites
    rw [writeFails_append hsmooth.succeed] at hwrites
    rw [List.filterMap_append, hsmooth.lines, h.written hwrites, List.flatMap_append,
      List.nil_append, List.append_assoc]
  ends := by
    intro call hcall
    -- the last call is among `calls`, or there are none
    rw [List.dropLast_append] at hcall
    split at hcall
    · exact hsmooth.succeed call (List.dropLast_subset before hcall)
    · rcases List.mem_append.mp hcall with hbefore | hafter
      · exact hsmooth.succeed call hbefore
      · exact h.ends call hafter
  ok_iff := by
    rw [h.ok_iff, writeFails_append hsmooth.succeed, List.forall_mem_append]
    constructor
    · rintro ⟨hfinal, haccepted, hwrites⟩
      exact ⟨hfinal, ⟨hsmooth.accepted, haccepted⟩, hwrites⟩
    · rintro ⟨hfinal, ⟨-, haccepted⟩, hwrites⟩
      exact ⟨hfinal, haccepted, hwrites⟩
  failure := by
    intro error herror
    exact (h.failure error herror).after hsmooth

/-- A dialogue that is over with a wait. -/
theorem refines_wait {state : Int} {limit : Duration} {answer : Except SessionError Match}
    {error : DialogueError} (going : state ≠ final)
    (found : [Call.expect dialogue.events limit answer].filterMap Call.found? = [] ∨
      ∃ found event, [Call.expect dialogue.events limit answer].filterMap Call.found? = [found] ∧
        error = .unexpectedEvent dialogue.name event state)
    (failure : Failure dialogue [] state [.expect dialogue.events limit answer] error) :
    Refines dialogue state [] [] state [.expect dialogue.events limit answer] (.error error) where
  path := .nil state
  found := by
    rcases found with hnone | ⟨found, event, hfound, rfl⟩
    · exact Or.inl hnone
    · exact Or.inr ⟨found, event, hfound, rfl⟩
  lines := List.prefix_refl _
  written := fun _ => rfl
  ends := fun call hcall => nomatch hcall
  ok_iff := ⟨(fun hresult => nomatch hresult), fun h => absurd h.1 going⟩
  failure := by
    intro other hother
    obtain rfl := Except.error.inj hother
    exact failure

/-- A dialogue that is over with a transition that fires in vain. -/
theorem refines_fired {limit : Duration} {fired : Fired} {more : List Call}
    {error : DialogueError} (going : fired.state ≠ final) (first : fired.First dialogue)
    (found : more.filterMap Call.found? = [])
    (lines : more.filterMap Call.line? <+: fired.lines dialogue)
    (written : ¬ WriteFails more → more.filterMap Call.line? = fired.lines dialogue)
    (ends : ∀ call ∈ more.dropLast, call.failure? = none)
    (bad : fired.Accepted dialogue → WriteFails more)
    (failure : Failure dialogue [fired] fired.transition.next
      (.expect dialogue.events limit (.ok fired.found) :: more) error) :
    Refines dialogue fired.state [] [fired] fired.transition.next
      (.expect dialogue.events limit (.ok fired.found) :: more) (.error error) where
  path := .cons first going (.nil _)
  found := Or.inl (congrArg (fired.found :: ·) found)
  lines := by
    rw [List.nil_append, List.flatMap_singleton]
    exact lines
  written := by
    intro hwrites
    rw [List.nil_append, List.flatMap_singleton]
    refine written ?_
    rintro ⟨line, why, hmem⟩
    exact hwrites ⟨line, why, List.mem_cons_of_mem _ hmem⟩
  ends := by
    intro call hcall
    cases more with
    | nil => exact nomatch hcall
    | cons next rest =>
        rcases List.mem_cons.mp hcall with rfl | hmem
        · rfl
        · exact ends call hmem
  ok_iff := by
    refine ⟨(fun hresult => nomatch hresult), ?_⟩
    rintro ⟨-, haccepted, hwrites⟩
    obtain ⟨line, why, hmem⟩ := bad (haccepted fired List.mem_cons_self)
    exact absurd ⟨line, why, List.mem_cons_of_mem _ hmem⟩ hwrites
  failure := by
    intro other hother
    obtain rfl := Except.error.inj hother
    exact failure

/-- **STOP**: what is done at the end. -/
theorem Stop.refines {state : Int} {limit : Duration} {last : Option Fired} {calls : List Call}
    {result : Except DialogueError Unit} (h : Stop dialogue state limit last calls result) :
    Refines dialogue state [] last.toList (arrival state last) calls result := by
  cases h with
  | arrived =>
      refine ⟨.nil _, Or.inl rfl, List.prefix_refl _, fun _ => rfl, ?_, ⟨fun _ => ?_, fun _ => rfl⟩,
        fun error herror => nomatch herror⟩
      · exact fun call hcall => nomatch hcall
      · refine ⟨rfl, (fun fired hfired => nomatch hfired), not_writeFails ?_⟩
        exact fun call hcall => nomatch hcall
  | timeout going =>
      exact refines_wait going (Or.inl rfl) (.timeout (List.nil_append _).symm)
  | broken going hother =>
      refine refines_wait going (Or.inl rfl) (.session (List.nil_append _).symm rfl ?_)
      intro limit waited tail hcall
      injection hcall with _ _ hanswer
      exact hother waited tail (Except.error.inj hanswer)
  | unexpected going hpattern hnone =>
      refine refines_wait going (Or.inr ⟨_, _, rfl, rfl⟩)
        (.unexpected (List.nil_append _).symm rfl hpattern (none_of_transition? hnone))
  | @unwritten limit fired before after line error going hfirst hlines =>
      have hwritten : (sendings before ++ [Call.send line (.error error)]).filterMap Call.line?
          = before ++ [line] := by
        rw [List.filterMap_append, lines_sendings]
        rfl
      have hfails : WriteFails (sendings before ++ [Call.send line (.error error)]) :=
        ⟨line, error, List.mem_append_right _ List.mem_cons_self⟩
      have hsplit : .expect dialogue.events limit (.ok fired.found) ::
            (sendings before ++ [Call.send line (.error error)])
          = (.expect dialogue.events limit (.ok fired.found) :: sendings before) ++
            [.send line (.error error)] := rfl
      refine refines_fired going hfirst ?_ ?_ (absurd hfails) ?_ (fun _ => hfails)
        (.session hsplit rfl (fun _ _ _ h => nomatch h))
      · rw [List.filterMap_append, found_sendings]
        rfl
      · rw [hwritten, hlines]
        exact ⟨after, by rw [List.append_assoc]; rfl⟩
      · rw [List.dropLast_concat]
        exact succeed_sendings before
  | @refused limit fired going hfirst hrefused =>
      refine refines_fired going hfirst (found_sendings _) ?_ (fun _ => lines_sendings _) ?_
        (fun haccepted => absurd haccepted hrefused)
        (.refused (List.nil_append _).symm hrefused (succeed_calls limit fired))
      · exact ⟨[], by rw [lines_sendings, List.append_nil]⟩
      · intro call hcall
        exact succeed_sendings _ call (List.dropLast_subset _ hcall)

/-! ## Whole runs -/

/-- A dialogue whose command does not go out. -/
theorem refines_unsent (dialogue : Dialogue) (command : String) (error : SessionError) :
    Refines dialogue 0 [command] [] 0 [.send command (.error error)]
      (.error (.session dialogue.name error)) := by
  have hfails : WriteFails [Call.send command (.error error)] :=
    ⟨command, error, List.mem_cons_self⟩
  refine ⟨.nil 0, Or.inl rfl, List.prefix_refl _, fun _ => rfl, ?_, ⟨?_, ?_⟩, ?_⟩
  · exact fun call hcall => nomatch hcall
  · exact fun hresult => nomatch hresult
  · exact fun h => absurd hfails h.2.2
  · intro other hother
    obtain rfl := Except.error.inj hother
    exact .session (List.nil_append _).symm rfl (fun _ _ _ h => nomatch h)

variable {σ : Type} [Session σ]

/-- Unless the waits are used up, a run sends its command and then refines its table. -/
theorem run_emits (dialogue : Dialogue)
    (inRange : Session.InRange σ dialogue.events)
    (waits : Nat) (command : String) :
    Emits (dialogue.run (σ := Recorded σ) waits command) (fun calls result =>
      (∃ state, result = .error (.unfinished dialogue.name state)) ∨
      (∃ answer rest, calls = .send command answer :: rest) ∧
        ∃ fired state, Refines dialogue 0 [command] fired state calls result) := by
  refine (dialogue.run_tells inRange waits command).emits.weaken ?_
  rintro calls result ⟨_, fired, hruns, -⟩
  cases hruns with
  | unsent why =>
      exact Or.inr ⟨⟨_, _, rfl⟩, [], 0, refines_unsent dialogue command why⟩
  | sent hgoes =>
      rcases hgoes.follows_or_walks with ⟨done, last, rfl, hfollows⟩ | ⟨stuck, _, rfl, -⟩
      · obtain ⟨stop, waiting, before, after, rfl, hwalks, hstop⟩ := hfollows.split
        exact Or.inr ⟨⟨_, _, rfl⟩, _, _,
          (hwalks.smooth.sent command).refines hwalks.path hstop.refines⟩
      · exact Or.inl ⟨stuck, rfl⟩

/-- **TABLE**: a dialogue that finishes, over a session that finds no events but those it is given,
    has sent its command first and then refined its table, whatever the session answers. What it
    has done is on the record of the same dialogue over the recorded session. -/
theorem run_refines_table (dialogue : Dialogue) (waits : Nat) (command : String) (link : Link σ)
    (inRange : Session.InRange σ dialogue.events)
    (finished : ∀ state, (dialogue.run waits command link).1 ≠
      .error (.unfinished dialogue.name state)) :
    ∃ (recorded : Link (Recorded σ)) (fired : List Fired) (state : Int),
      dialogue.run waits command link.recording = ((dialogue.run waits command link).1, recorded) ∧
      recorded.erased = (dialogue.run waits command link).2 ∧
      (∃ answer rest, recorded.session.calls = .send command answer :: rest) ∧
      Refines dialogue 0 [command] fired state recorded.session.calls
        (dialogue.run waits command link).1 := by
  have herased := dialogue.run_erases waits command link.recording
  rw [Link.erased_recording] at herased
  obtain ⟨calls, hcalls, hspec⟩ := dialogue.run_emits inRange waits command link.recording
  have hrecord : (dialogue.run waits command link.recording).2.session.calls = calls := hcalls
  have hresult : (dialogue.run waits command link.recording).1
      = (dialogue.run waits command link).1 := by rw [herased]
  rw [hresult] at hspec
  rcases hspec with ⟨state, hunfinished⟩ | ⟨hfirst, fired, state, hrefines⟩
  · exact absurd hunfinished (finished state)
  · refine ⟨(dialogue.run waits command link.recording).2, fired, state, ?_, ?_, ?_, ?_⟩
    · exact Prod.ext hresult rfl
    · rw [herased]
    · rw [hrecord]
      exact hfirst
    · rw [hrecord]
      exact hrefines

/-- A dialogue that answers a question and is then done. -/
def confirming : Dialogue where
  name := "install"
  events := [.ofText "sure", .ofText "done"]
  transitions := [
    { event := "sure", sources := [0], next := 1, action := some sendNewline },
    { event := "done", sources := [1], next := final }]

/-- A device that asks when it is told to install, and is done when it gets an empty line. -/
def asking : Link Replay where
  session := (({} : Replay).reply "install" "sure?".toList).reply "" "done".toList
  host := { files := { root := "/" } }

/-- The dialogue with this device finishes. -/
theorem confirming_refines_table :
    Session.InRange Replay confirming.events ∧
      (∀ state, (confirming.run 5 "install" asking).1 ≠
        .error (.unfinished confirming.name state)) ∧
      ∃ (recorded : Link (Recorded Replay)) (fired : List Fired) (state : Int),
        Refines confirming 0 ["install"] fired state recorded.session.calls (.ok ()) := by
  have hresult : (confirming.run 5 "install" asking).1 = .ok () := rfl
  have finished : ∀ state, (confirming.run 5 "install" asking).1 ≠
      .error (.unfinished confirming.name state) := by
    intro state
    rw [hresult]
    exact fun h => nomatch h
  obtain ⟨recorded, fired, state, -, -, -, hrefines⟩ :=
    run_refines_table confirming 5 "install" asking (Replay.inRange _) finished
  rw [hresult] at hrefines
  exact ⟨Replay.inRange _, finished, recorded, fired, state, hrefines⟩

end Dialogue

end Upkeep
