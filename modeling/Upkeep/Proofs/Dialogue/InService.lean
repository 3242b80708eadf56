import Upkeep.Proofs.Dialogue.Install
import Upkeep.Proofs.Dialogue.Waits

/-! # Upgrades in service — what the stages that were announced allow

    An upgrade in service announces its stages, and the state of its dialogue is
    one ahead of the stage that was announced last.  So the state tells which
    events were found before, and in which order (`Underway`).  Every row of the
    table either carries this on or ends the dialogue (`Progress`), and what a run
    does about an event is read off the row.

    An error ends a run at once, wherever it is found, and success is not reached
    without all four stages (`error_ends_upgrade`).  A connection that the device
    closes is tolerated in the states 1 to 4.  These are not the four stages: in
    the fourth one the state is 5 (`close_tolerated_iff`). -/

namespace Upkeep.Dialogue

/-! ## Events and warnings -/

def diskCheckEvent : String := "Starting disk space verification"

/-- The four stages, as they are announced. -/
def stageEvents : List String := [
  "STAGE 1: Installing software on standby RP",
  "STAGE 2: Restarting standby RP",
  "STAGE 3: Installing sipspa package on local RP",
  "STAGE 4: Installing software on active RP"]

/-- The events that lead from one state to another. -/
def stepEvents : List String := diskCheckEvent :: stageEvents

def provisionedEvent : String :=
  "SUCCESS: Software provisioned\\.\\s+New software will load on reboot"

def notBootedEvent : String := "SYSTEM IS NOT BOOTED VIA PACKAGE FILE"

def failedEvent : String := "FAILED:.*"

/-- The events that tell of an error. -/
def errorEvents : List String := [notBootedEvent, failedEvent]

def closedEvent : String := "Connection closed by foreign host"

/-- The warning about an error: the last line of a failure that the device reports. -/
def errorWarning (event : String) (text : Text) : String :=
  if event = failedEvent then String.ofList ((lines (trim text)).getLast?.getD [])
  else "Error in ISSU. Please see session.log for details"

def closedWarning : String := "Unexpected connection closed by foreign host during ISSU"

/-- The events up to the announcement of a stage. -/
def announced (checked : Bool) (stage : Nat) : List String :=
  (if checked then [diskCheckEvent] else []) ++ stageEvents.take stage

/-! ## States -/

/-- The events that have led to a state. -/
inductive Underway (state : Int) (events : List String) : Prop where
  | started : state = 0 → events = [] → Underway state events
  | checked : state = 1 → events = [diskCheckEvent] → Underway state events
  | installing (checked : Bool) (stage : Nat) : 1 ≤ stage → stage ≤ 4 → state = stage + 1 →
      events = announced checked stage → Underway state events

/-- An upgrade that is under way is in one of six states. -/
theorem Underway.mem_states {state : Int} {events : List String} (h : Underway state events) :
    state ∈ ([0, 1, 2, 3, 4, 5] : List Int) := by
  cases h with
  | started hstate _ => simp [hstate]
  | checked hstate _ => simp [hstate]
  | installing _ stage hone hfour hstate _ =>
      simp only [List.mem_cons, List.not_mem_nil, or_false]
      omega

/-- Behind the disk check the upgrade is in the first state. -/
theorem Underway.of_checked {state : Int} (h : Underway state [diskCheckEvent]) : state = 1 := by
  cases h with
  | started _ hevents => exact nomatch hevents
  | checked hstate _ => exact hstate
  | installing checked stage hone hfour _ hevents =>
      have hnever : ∀ checked, ∀ stage ∈ List.range' 1 4,
          [diskCheckEvent] ≠ announced checked stage := by decide
      exact absurd hevents (hnever checked stage (List.mem_range'_1.mpr ⟨hone, by omega⟩))

/-- What a transition of the upgrade comes to, behind some events. -/
inductive Progress (events : List String) (fired : Fired) : Prop where
  /-- The upgrade is under way. -/
  | onward : fired.transition.event ∈ stepEvents →
      Underway fired.transition.next (events ++ [fired.transition.event]) →
      fired.notices inService = [] → Progress events fired
  /-- All stages are over. -/
  | provisioned (checked : Bool) : fired.transition.event = provisionedEvent →
      events = announced checked 4 → fired.transition.next = final → Progress events fired
  /-- There is an error. -/
  | error : fired.transition.event ∈ errorEvents → fired.transition.next = final →
      ¬ fired.Accepted inService →
      fired.notices inService
        = [.line ("WARNING: " ++ errorWarning fired.transition.event fired.found.text)] →
      Progress events fired
  /-- The device has gone, where that is tolerated. -/
  | closed : fired.transition.event = closedEvent → fired.state ∈ ([1, 2, 3, 4] : List Int) →
      fired.transition.next = final → fired.Accepted inService →
      fired.notices inService = [.line ("WARNING: " ++ closedWarning)] → Progress events fired

/-- A stage is announced behind those before it. -/
theorem Underway.announces {state next : Int} {events : List String} {event : String} (stage : Nat)
    (h : Underway state events) (hone : 1 ≤ stage) (hstate : state = stage + 1)
    (hnext : next = stage + 2) (hevent : stageEvents[stage]? = some event) :
    Underway next (events ++ [event]) := by
  have hlt : stage < stageEvents.length := (List.getElem?_eq_some_iff.mp hevent).1
  cases h with
  | started hzero _ => omega
  | checked hchecked _ => omega
  | installing checked before _ _ hbefore hevents =>
      obtain rfl : before = stage := by omega
      refine .installing checked (before + 1) (Nat.le_add_left 1 before) hlt (by omega) ?_
      rw [hevents, announced, announced, List.append_assoc, List.take_add_one, hevent]
      rfl

theorem mem_stepEvents {event : String} (stage : Nat) (h : stageEvents[stage]? = some event) :
    event ∈ stepEvents := List.mem_cons_of_mem _ (List.mem_of_getElem? h)

/-- **ROWS**: every row of the table carries the upgrade on, or ends it. -/
theorem Underway.progress {fired : Fired} {events : List String}
    (h : Underway fired.state events) (first : fired.First inService) : Progress events fired := by
  have hmem := mem_of_first first
  have hsource := first.source
  obtain ⟨state, found, transition⟩ := fired
  simp only [inService, List.mem_cons, List.not_mem_nil, or_false] at hmem
  rcases hmem with rfl | rfl | rfl | rfl | rfl | rfl | rfl | rfl | rfl
  · -- the disk check comes first
    obtain rfl : state = 0 := List.mem_singleton.mp hsource
    refine .onward List.mem_cons_self ?_ rfl
    cases h with
    | started _ hevents => exact .checked rfl (by rw [hevents]; rfl)
    | checked hstate _ => exact absurd hstate (show (0 : Int) ≠ 1 by decide)
    | installing _ stage hone _ hstate _ => dsimp only at hstate; omega
  · -- the first stage comes first, or behind the disk check
    refine .onward (mem_stepEvents 0 rfl) ?_ rfl
    cases h with
    | started _ hevents =>
        exact .installing false 1 (Nat.le_refl 1) (by decide) rfl (by rw [hevents]; rfl)
    | checked _ hevents =>
        exact .installing true 1 (Nat.le_refl 1) (by decide) rfl (by rw [hevents]; rfl)
    | installing _ stage hone _ hstate _ =>
        simp only [List.mem_cons, List.not_mem_nil, or_false] at hsource
        dsimp only at hstate
        omega
  · have hnext := h.announces 1 (by decide) (List.mem_singleton.mp hsource) rfl rfl
    exact .onward (mem_stepEvents 1 rfl) hnext rfl
  · have hnext := h.announces 2 (by decide) (List.mem_singleton.mp hsource) rfl rfl
    exact .onward (mem_stepEvents 2 rfl) hnext rfl
  · have hnext := h.announces 3 (by decide) (List.mem_singleton.mp hsource) rfl rfl
    exact .onward (mem_stepEvents 3 rfl) hnext rfl
  · -- in the last state all four stages have been announced
    obtain rfl : state = 5 := List.mem_singleton.mp hsource
    cases h with
    | started hstate _ => exact absurd hstate (show (5 : Int) ≠ 0 by decide)
    | checked hstate _ => exact absurd hstate (show (5 : Int) ≠ 1 by decide)
    | installing checked stage _ _ hstate hevents =>
        obtain rfl : stage = 4 := by dsimp only at hstate; omega
        exact .provisioned checked rfl hevents rfl
  · exact .error List.mem_cons_self rfl Bool.false_ne_true rfl
  · exact .error (List.mem_cons_of_mem _ List.mem_cons_self) rfl Bool.false_ne_true rfl
  · exact .closed rfl hsource rfl rfl rfl

/-- A walk that has not come to the end leaves the upgrade under way, and has told nothing. -/
theorem Underway.path {start state : Int} {events : List String} {fired : List Fired}
    (h : Underway start events) (hpath : Path inService start fired state) (going : state ≠ final) :
    Underway state (events ++ fired.map (·.transition.event)) ∧
      fired.flatMap (Fired.notices inService) = [] := by
  induction hpath generalizing events with
  | nil => exact ⟨by rw [List.map_nil, List.append_nil]; exact h, rfl⟩
  | @cons first rest last hfirst _ hrest ih =>
      have hend (hnext : first.transition.next = final) : False := by
        rw [hnext] at hrest
        exact going hrest.of_final.2
      cases h.progress hfirst with
      | onward _ hunderway hnotices =>
          obtain ⟨hlast, htold⟩ := ih hunderway going
          rw [List.append_assoc] at hlast
          exact ⟨hlast, by rw [List.flatMap_cons, hnotices, htold]; rfl⟩
      | provisioned _ _ _ hnext => exact (hend hnext).elim
      | error _ hnext => exact (hend hnext).elim
      | closed _ _ hnext => exact (hend hnext).elim

/-! ## Runs -/

theorem Behind.events {dialogue : Dialogue} {command : String} {done : List Fired} {state : Int}
    {limit : Duration} {before : List Call} (h : Behind dialogue command done state limit before) :
    before.filterMap Call.event? = done.map (·.transition.event) := by
  obtain ⟨-, calls, rfl, hwalks⟩ := h
  exact hwalks.events

/-- An upgrade that waits is under way, and has told nothing yet. -/
theorem Behind.underway {command : String} {done : List Fired} {state : Int} {limit : Duration}
    {before : List Call} (h : Behind inService command done state limit before) :
    Underway state (before.filterMap Call.event?) ∧
      done.flatMap (Fired.notices inService) = [] := by
  obtain ⟨_, -, hwalks⟩ := h.walked
  rw [h.events]
  exact (Underway.started rfl rfl).path hwalks.path h.going

/-- How an upgrade answers an event in a state: a row of the table is for it, and refuses it or leads
    on, or there is none. -/
inductive Answer (state : Int) (found : Match) (event : String) :
    List Fired → List Call → Except DialogueError Unit → Prop where
  | row {fired : Fired} {later : List Fired} {limit : Duration} {after : List Call}
      {result : Except DialogueError Unit} :
      fired.state = state → fired.found = found → fired.transition.event = event →
      fired.First inService → fired.Accepted inService →
      Goes inService fired.transition.next limit later after result →
      Answer state found event (fired :: later) after result
  | refusal {fired : Fired} :
      fired.state = state → fired.found = found → fired.transition.event = event →
      fired.First inService → ¬ fired.Accepted inService →
      Answer state found event [fired] [] (.error (.actionFailed "ISSU" event state))
  | none : inService.transition? event state = none →
      Answer state found event [] [] (.error (.unexpectedEvent "ISSU" event state))

/-- An upgrade sends no lines, so its reactions are answers. -/
theorem Reaction.answer {state : Int} {limit : Duration} {found : Match} {event : String}
    {later : List Fired} {after : List Call} {result : Except DialogueError Unit}
    (h : Reaction inService state limit found later after result)
    (hevent : inService.events[found.index]?.map Pattern.text = some event) :
    Answer state found event later after result := by
  have htext {fired : Fired} (hfound : fired.found = found) (hfirst : fired.First inService) :
      fired.transition.event = event := by
    obtain ⟨pattern, hpattern, htext⟩ := hfirst.event
    rw [hfound] at hpattern
    rw [hpattern] at hevent
    exact htext.symm.trans (Option.some.inj hevent)
  cases h with
  | goes hstate hfound hfirst haccepted hgoes =>
      rw [inService_silent hfirst]
      exact .row hstate hfound (htext hfound hfirst) hfirst haccepted hgoes
  | refused hstate hfound hfirst hrefused =>
      rw [inService_silent hfirst, htext hfound hfirst]
      exact .refusal hstate hfound (htext hfound hfirst) hfirst hrefused
  | unwritten hfirst hlines =>
      rw [inService_silent hfirst] at hlines
      exact absurd hlines.symm
        (List.append_ne_nil_of_right_ne_nil _ (List.cons_ne_nil _ _))
  | unexpected hpattern hnone =>
      rw [hpattern] at hevent
      obtain rfl := Option.some.inj hevent
      exact .none hnone

variable {σ : Type} [Session σ]

theorem steps_no_errors : ∀ event ∈ stepEvents, event ∉ errorEvents := by decide

/-- An event on a record is that of a wait, behind the events before it. -/
theorem wait_of_event {calls : List Call} {earlier later : List String} {event : String}
    (h : calls.filterMap Call.event? = earlier ++ event :: later) :
    ∃ before patterns limit found after,
      calls = before ++ .expect patterns limit (.ok found) :: after ∧
      Call.event? (.expect patterns limit (.ok found)) = some event ∧
      before.filterMap Call.event? = earlier := by
  obtain ⟨first, rest, rfl, hfirst, hrest⟩ := List.filterMap_eq_append_iff.mp h
  obtain ⟨quiet, call, after, rfl, hquiet, hevent, -⟩ := List.filterMap_eq_cons_iff.mp hrest
  have hbefore : (first ++ quiet).filterMap Call.event? = earlier := by
    rw [List.filterMap_append, hfirst, List.filterMap_eq_nil_iff.mpr hquiet, List.append_nil]
  cases call with
  | expect patterns limit answer =>
      cases answer with
      | ok found =>
          exact ⟨first ++ quiet, patterns, limit, found, after, (List.append_assoc ..).symm,
            hevent, hbefore⟩
      | error => exact nomatch hevent
  | _ => exact nomatch hevent

/-- **WAITS**: where an upgrade finds an event, the events before it tell the state, and the board
    has been told nothing yet. -/
theorem upgrade_waits (waits : Nat) (command : String) (link : Link σ)
    (inRange : Session.InRange σ inService.events) :
    ∃ calls, inService.Records waits command link calls ∧
      ∀ before patterns limit found after event,
        calls = before ++ .expect patterns limit (.ok found) :: after →
        Call.event? (.expect patterns limit (.ok found)) = some event →
          ∃ done later state, Behind inService command done state limit before ∧
            Underway state (before.filterMap Call.event?) ∧
            Answer state found event later after (inService.run waits command link).1 ∧
            (inService.run waits command link).2.host.board
              = link.host.board.takeAll (later.flatMap (Fired.notices inService)) := by
  obtain ⟨calls, fired, hrecords, hruns, hboard⟩ :=
    inService.run_records waits command link inRange
  refine ⟨calls, hrecords, ?_⟩
  intro before patterns limit found after event hsplit hevent
  obtain ⟨done, later, state, rfl, rfl, hbehind, hgoes⟩ := hruns.wait hsplit
  obtain ⟨hunderway, hsilent⟩ := hbehind.underway
  rw [List.flatMap_append, hsilent, List.nil_append] at hboard
  exact ⟨done, later, state, hbehind, hunderway, (hgoes.reaction rfl).answer hevent, hboard⟩

/-- Every state of an upgrade under way has a row for an error. -/
theorem Underway.errs {state : Int} {events : List String} (h : Underway state events)
    {event : String} (herror : event ∈ errorEvents) :
    inService.transition? event state ≠ none := by
  have hrows : ∀ state ∈ ([0, 1, 2, 3, 4, 5] : List Int), ∀ event ∈ errorEvents,
      (inService.transition? event state).isSome := by decide
  exact Option.isSome_iff_ne_none.mp (hrows state h.mem_states event herror)

/-- An answer to an error is a refusal with a warning. -/
theorem Answer.of_error {state : Int} {found : Match} {event : String} {events : List String}
    {later : List Fired} {after : List Call} {result : Except DialogueError Unit}
    (h : Answer state found event later after result) (hunderway : Underway state events)
    (herror : event ∈ errorEvents) :
    after = [] ∧ result = .error (.actionFailed "ISSU" event state) ∧
      later.flatMap (Fired.notices inService)
        = [.line ("WARNING: " ++ errorWarning event found.text)] := by
  have hfails {fired : Fired} (hevent : fired.transition.event = event)
      (hfirst : fired.First inService) (hstate : fired.state = state)
      (hfound : fired.found = found) : ¬ fired.Accepted inService ∧ fired.notices inService
        = [.line ("WARNING: " ++ errorWarning event found.text)] := by
    obtain rfl := hstate
    obtain rfl := hevent
    obtain rfl := hfound
    cases hunderway.progress hfirst with
    | error _ _ hrefused hnotices => exact ⟨hrefused, hnotices⟩
    | onward hstep => exact absurd herror (steps_no_errors _ hstep)
    | provisioned _ hevent => rw [hevent] at herror; exact absurd herror (by decide)
    | closed hevent => rw [hevent] at herror; exact absurd herror (by decide)
  cases h with
  | row hstate hfound hevent hfirst haccepted =>
      exact absurd haccepted (hfails hevent hfirst hstate hfound).1
  | refusal hstate hfound hevent hfirst _ =>
      exact ⟨rfl, rfl, by rw [List.flatMap_singleton, (hfails hevent hfirst hstate hfound).2]⟩
  | none hnone => exact absurd hnone (hunderway.errs herror)

/-- If all is over with the new software there, all four stages have been announced. -/
theorem Answer.of_provisioned {state : Int} {found : Match} {events : List String}
    {later : List Fired} {after : List Call}
    (h : Answer state found provisionedEvent later after (.ok ()))
    (hunderway : Underway state events) : ∃ checked, events = announced checked 4 := by
  cases h with
  | row hstate _ hevent hfirst _ _ =>
      obtain rfl := hstate
      cases hunderway.progress hfirst with
      | provisioned checked _ hevents => exact ⟨checked, hevents⟩
      | onward hstep => rw [hevent] at hstep; exact absurd hstep (by decide)
      | error herror => rw [hevent] at herror; exact absurd herror (by decide)
      | closed hclosed => exact absurd (hevent.symm.trans hclosed) (by decide)

/-- **ERRORS**: whatever a session answers, an upgrade that finds an error is over, with a warning
    and nothing else on the board.  So one that succeeds has found no error, and if it succeeds
    with the new software there, it has found all four stages before, in their order. -/
theorem error_ends_upgrade (waits : Nat) (command : String) (link : Link σ)
    (inRange : Session.InRange σ inService.events) :
    ∃ calls, inService.Records waits command link calls ∧
      (∀ before patterns limit found after event,
        calls = before ++ .expect patterns limit (.ok found) :: after →
        Call.event? (.expect patterns limit (.ok found)) = some event → event ∈ errorEvents →
          ∃ done state, Behind inService command done state limit before ∧ after = [] ∧
            (inService.run waits command link).1 = .error (.actionFailed "ISSU" event state) ∧
            (inService.run waits command link).2.host.board
              = link.host.board.save ("WARNING: " ++ errorWarning event found.text)) ∧
      ((inService.run waits command link).1 = .ok () →
        (∀ event ∈ errorEvents, event ∉ calls.filterMap Call.event?) ∧
        ((calls.filterMap Call.event?).getLast? = some provisionedEvent →
          ∃ checked, calls.filterMap Call.event? = announced checked 4 ++ [provisionedEvent])) := by
  obtain ⟨calls, hrecords, hwaits⟩ := upgrade_waits waits command link inRange
  refine ⟨calls, hrecords, ?_, fun hok => ⟨?_, ?_⟩⟩
  · intro before patterns limit found after event hsplit hevent herror
    obtain ⟨done, later, state, hbehind, hunderway, hanswer, hboard⟩ :=
      hwaits _ _ _ _ _ _ hsplit hevent
    obtain ⟨hafter, hresult, hnotices⟩ := hanswer.of_error hunderway herror
    rw [hnotices] at hboard
    exact ⟨done, state, hbehind, hafter, hresult, hboard⟩
  · -- behind an error a run fails
    intro event herror hmem
    obtain ⟨earlier, more, hevents⟩ := List.append_of_mem hmem
    obtain ⟨before, patterns, limit, found, after, hsplit, hevent, -⟩ := wait_of_event hevents
    obtain ⟨_, _, _, -, hunderway, hanswer, -⟩ := hwaits _ _ _ _ _ _ hsplit hevent
    rw [hok] at hanswer
    exact nomatch (hanswer.of_error hunderway herror).2.1
  · -- only the row that leads to the end has this event, and it is for the last state
    intro hlast
    obtain ⟨earlier, hevents⟩ := List.getLast?_eq_some_iff.mp hlast
    obtain ⟨before, patterns, limit, found, after, hsplit, hevent, rfl⟩ := wait_of_event hevents
    obtain ⟨_, _, _, -, hunderway, hanswer, -⟩ := hwaits _ _ _ _ _ _ hsplit hevent
    rw [hok] at hanswer
    obtain ⟨checked, hannounced⟩ := hanswer.of_provisioned hunderway
    exact ⟨checked, hevents.trans (congrArg (· ++ [provisionedEvent]) hannounced)⟩

/-- A device that gives an output on a command, line by line. -/
def installing (output : List String) : Link Replay where
  session := ({} : Replay).reply "install" ("\n".intercalate output).toList
  host := { files := { root := "/" } }

/-- The events that are found on the way of an upgrade. -/
def eventsFound (waits : Nat) (command : String) (link : Link σ) : List String :=
  (inService.run waits command link.recording).2.session.calls.filterMap Call.event?

theorem Records.eventsFound_eq {waits : Nat} {command : String} {link : Link σ}
    {calls : List Call} (h : inService.Records waits command link calls) :
    calls.filterMap Call.event? = eventsFound waits command link := by
  obtain ⟨recorded, hrun, -, rfl⟩ := h
  rw [eventsFound, hrun]

/-- A device that runs out of space behind the disk check. -/
def outOfSpace : Link Replay := installing [diskCheckEvent, "FAILED: No space \r"]

/-- Its message ends the upgrade, and is kept. -/
theorem failure_ends_upgrade :
    Session.InRange Replay inService.events ∧
      eventsFound 10 "install" outOfSpace = [diskCheckEvent, failedEvent] ∧
      (inService.run 10 "install" outOfSpace).1
        = .error (.actionFailed "ISSU" failedEvent 1) ∧
      (inService.run 10 "install" outOfSpace).2.host.board.jobInfo
        = ["WARNING: FAILED: No space"] := by
  obtain ⟨calls, hrecords, herrors, -⟩ :=
    error_ends_upgrade 10 "install" outOfSpace (Replay.inRange _)
  -- the recorded run tells both what is found and what is kept
  obtain ⟨hevents, hinfo⟩ : eventsFound 10 "install" outOfSpace = [diskCheckEvent, failedEvent] ∧
      (inService.run 10 "install" outOfSpace.recording).2.host.board.jobInfo
        = ["WARNING: FAILED: No space"] := by decide +kernel
  rw [run_recording_host] at hinfo
  obtain ⟨before, patterns, limit, found, after, hsplit, hevent, hbefore⟩ :=
    wait_of_event (show _ = [diskCheckEvent] ++ failedEvent :: [] from
      hrecords.eventsFound_eq.trans hevents)
  obtain ⟨done, state, hbehind, -, hresult, -⟩ :=
    herrors before patterns limit found after failedEvent hsplit hevent (by decide)
  have hunderway := hbehind.underway.1
  rw [hbefore] at hunderway
  obtain rfl := hunderway.of_checked
  exact ⟨Replay.inRange _, hevents, hresult, hinfo⟩

/-- The stage that was announced last is told by the events. -/
theorem Underway.of_announcement {state : Int} {events : List String} {stage : Nat}
    (h : Underway state events) (hone : 1 ≤ stage) (hfour : stage ≤ 4)
    (hlast : events.getLast? = stageEvents[stage - 1]?) :
    state = stage + 1 ∧ ∃ checked, events = announced checked stage := by
  have hmem (stage : Nat) (hone : 1 ≤ stage) (hfour : stage ≤ 4) :
      stage ∈ List.range' 1 4 := List.mem_range'_1.mpr ⟨hone, by omega⟩
  cases h with
  | started _ hevents =>
      rw [hevents, eq_comm, List.getLast?_nil, List.getElem?_eq_none_iff] at hlast
      have hlength : stageEvents.length = 4 := rfl
      omega
  | checked _ hevents =>
      have hnever : ∀ stage ∈ List.range' 1 4,
          [diskCheckEvent].getLast? ≠ stageEvents[stage - 1]? := by decide
      rw [hevents] at hlast
      exact absurd hlast (hnever stage (hmem stage hone hfour))
  | installing checked before hbefore hbefour hstate hevents =>
      have honce : ∀ checked, ∀ before ∈ List.range' 1 4, ∀ stage ∈ List.range' 1 4,
          (announced checked before).getLast? = stageEvents[stage - 1]? → before = stage := by
        decide
      rw [hevents] at hlast
      obtain rfl := honce checked before (hmem before hbefore hbefour) stage
        (hmem stage hone hfour) hlast
      exact ⟨hstate, checked, hevents⟩

/-- An answer to a closed connection depends on the state. -/
theorem Answer.of_closed {state : Int} {found : Match} {events : List String}
    {later : List Fired} {after : List Call} {result : Except DialogueError Unit}
    (h : Answer state found closedEvent later after result) (hunderway : Underway state events) :
    after = [] ∧
      ((state ∈ ([1, 2, 3, 4] : List Int) ∧ result = .ok () ∧
        later.flatMap (Fired.notices inService) = [.line ("WARNING: " ++ closedWarning)]) ∨
      (state ∉ ([1, 2, 3, 4] : List Int) ∧
        result = .error (.unexpectedEvent "ISSU" closedEvent state) ∧ later = [])) := by
  have hrow {fired : Fired} (hevent : fired.transition.event = closedEvent)
      (hfirst : fired.First inService) (hstate : fired.state = state) :
      state ∈ ([1, 2, 3, 4] : List Int) ∧ fired.transition.next = final ∧
        fired.Accepted inService ∧
        fired.notices inService = [.line ("WARNING: " ++ closedWarning)] := by
    obtain rfl := hstate
    cases hunderway.progress hfirst with
    | closed _ hmem hnext haccepted hnotices => exact ⟨hmem, hnext, haccepted, hnotices⟩
    | onward hstep => rw [hevent] at hstep; exact absurd hstep (by decide)
    | provisioned _ hother => exact absurd (hevent.symm.trans hother) (by decide)
    | error herror => rw [hevent] at herror; exact absurd herror (by decide)
  cases h with
  | row hstate _ hevent hfirst _ hgoes =>
      obtain ⟨hmem, hnext, -, hnotices⟩ := hrow hevent hfirst hstate
      rw [hnext] at hgoes
      obtain ⟨rfl, rfl, rfl⟩ := hgoes.of_final
      exact ⟨rfl, Or.inl ⟨hmem, rfl, by rw [List.flatMap_singleton, hnotices]⟩⟩
  | refusal hstate _ hevent hfirst hrefused =>
      exact absurd (hrow hevent hfirst hstate).2.2.1 hrefused
  | none hnone =>
      have hrows : ∀ state ∈ ([1, 2, 3, 4] : List Int),
          (inService.transition? closedEvent state).isSome := by decide
      refine ⟨rfl, Or.inr ⟨fun hmem => ?_, rfl, rfl⟩⟩
      exact absurd hnone (Option.isSome_iff_ne_none.mp (hrows state hmem))

/-- **CLOSED**: whatever a session answers, an upgrade that finds the connection closed behind the
    announcement of a stage succeeds in the first three stages, with one warning.  In the fourth
    one it fails, and the board is told nothing. -/
theorem close_tolerated_iff (waits : Nat) (command : String) (link : Link σ)
    (inRange : Session.InRange σ inService.events) :
    ∃ calls, inService.Records waits command link calls ∧
      ∀ before patterns limit found after stage,
        calls = before ++ .expect patterns limit (.ok found) :: after →
        Call.event? (.expect patterns limit (.ok found)) = some closedEvent →
        1 ≤ stage → stage ≤ 4 →
        (before.filterMap Call.event?).getLast? = stageEvents[stage - 1]? →
          (∃ checked, before.filterMap Call.event? = announced checked stage) ∧ after = [] ∧
          ((inService.run waits command link).1 = .ok () ↔ stage < 4) ∧
          (stage < 4 → (inService.run waits command link).2.host.board
            = link.host.board.save ("WARNING: " ++ closedWarning)) ∧
          (stage = 4 →
            (inService.run waits command link).1
              = .error (.unexpectedEvent "ISSU" closedEvent 5) ∧
            (inService.run waits command link).2.host.board = link.host.board) := by
  obtain ⟨calls, hrecords, hwaits⟩ := upgrade_waits waits command link inRange
  refine ⟨calls, hrecords, ?_⟩
  intro before patterns limit found after stage hsplit hevent hone hfour hlast
  obtain ⟨_, later, state, -, hunderway, hanswer, hboard⟩ := hwaits _ _ _ _ _ _ hsplit hevent
  obtain ⟨rfl, hchecked⟩ := hunderway.of_announcement hone hfour hlast
  obtain ⟨hafter, hclosed⟩ := hanswer.of_closed hunderway
  refine ⟨hchecked, hafter, ?_⟩
  simp only [List.mem_cons, List.not_mem_nil, or_false] at hclosed
  rcases hclosed with ⟨hmem, hresult, hnotices⟩ | ⟨hmem, hresult, rfl⟩
  · -- the state is one ahead of the stage, so this is one of the first three stages
    have hstage : stage < 4 := by omega
    rw [hnotices] at hboard
    exact ⟨iff_of_true hresult hstage, fun _ => hboard, fun hlate => absurd hlate (by omega)⟩
  · obtain rfl : stage = 4 := by omega
    refine ⟨iff_of_false ?_ (Nat.lt_irrefl 4), fun hearly => absurd hearly (Nat.lt_irrefl 4), ?_⟩
    · rw [hresult]
      exact fun hok => nomatch hok
    · exact fun _ => ⟨hresult, hboard⟩

/-- A device that goes in the first stage. -/
theorem first_stage_tolerated :
    Session.InRange Replay inService.events ∧
      eventsFound 10 "install" (installing (announced false 1 ++ [closedEvent]))
        = announced false 1 ++ [closedEvent] ∧
      (inService.run 10 "install" (installing (announced false 1 ++ [closedEvent]))).1 = .ok () ∧
      (inService.run 10 "install"
        (installing (announced false 1 ++ [closedEvent]))).2.host.board.jobInfo
        = ["WARNING: " ++ closedWarning] := by
  obtain ⟨calls, hrecords, hclosed⟩ := close_tolerated_iff 10 "install"
    (installing (announced false 1 ++ [closedEvent])) (Replay.inRange _)
  have hevents : eventsFound 10 "install" (installing (announced false 1 ++ [closedEvent]))
      = announced false 1 ++ closedEvent :: [] := by decide +kernel
  obtain ⟨before, patterns, limit, found, after, hsplit, hevent, hbefore⟩ :=
    wait_of_event (hrecords.eventsFound_eq.trans hevents)
  obtain ⟨-, -, hiff, hboard, -⟩ := hclosed before patterns limit found after 1 hsplit hevent
    (by decide) (by decide) (by rw [hbefore]; decide)
  refine ⟨Replay.inRange _, hevents, hiff.mpr (by decide), ?_⟩
  rw [hboard (by decide)]
  rfl

/-- **NOT TOLERATED**: a device that goes in the fourth stage, when the processor that the session is
    on reloads, makes the upgrade fail, although all stages were announced in their order. -/
theorem last_stage_not_tolerated :
    eventsFound 10 "install" (installing (announced false 4 ++ [closedEvent]))
        = announced false 4 ++ [closedEvent] ∧
      (inService.run 10 "install" (installing (announced false 4 ++ [closedEvent]))).1
        = .error (.unexpectedEvent "ISSU" closedEvent 5) ∧
      (inService.run 10 "install"
        (installing (announced false 4 ++ [closedEvent]))).2.host.board.jobInfo = [] := by
  obtain ⟨calls, hrecords, hwaits⟩ := upgrade_waits 10 "install"
    (installing (announced false 4 ++ [closedEvent])) (Replay.inRange _)
  have hevents : eventsFound 10 "install" (installing (announced false 4 ++ [closedEvent]))
      = announced false 4 ++ closedEvent :: [] := by decide +kernel
  obtain ⟨before, patterns, limit, found, after, hsplit, hevent, hbefore⟩ :=
    wait_of_event (hrecords.eventsFound_eq.trans hevents)
  obtain ⟨_, _, state, -, hunderway, hanswer, hboard⟩ := hwaits _ _ _ _ _ _ hsplit hevent
  obtain ⟨rfl, -⟩ := hunderway.of_announcement (show 1 ≤ 4 by decide) (Nat.le_refl 4)
    (by rw [hbefore]; decide)
  rcases (hanswer.of_closed hunderway).2 with ⟨hmem, -⟩ | ⟨-, hresult, rfl⟩
  · exact absurd hmem (by decide)
  · exact ⟨hevents, hresult, by rw [hboard]; rfl⟩

end Upkeep.Dialogue
