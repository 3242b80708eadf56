import Upkeep.Proofs.Dialogue.Refinement

/-! # Walks — what is on the record of a dialogue, finished or not

    `Refines` tells all of a dialogue that finishes.  Whoever has several
    dialogues in a row needs less of each, and needs it also of one that is cut
    off: the lines that were handed to the session, and, of one that succeeds,
    the events that have led to its end (`Walked`). -/

namespace Upkeep.Dialogue

variable {dialogue : Dialogue}

/-- The calls for a transition find its event, and no other. -/
theorem events_calls (limit : Duration) {fired : Fired} (first : fired.First dialogue) :
    (dialogue.calls limit fired).filterMap Call.event? = [fired.transition.event] := by
  obtain ⟨pattern, hpattern, htext⟩ := first.event
  have hevent : Call.event? (.expect dialogue.events limit (.ok fired.found))
      = some fired.transition.event := by
    rw [Call.event?, hpattern, ← htext]
    rfl
  have hsends : (sendings (fired.lines dialogue)).filterMap Call.event? = [] := by
    rw [sendings, List.filterMap_map]
    exact List.filterMap_eq_nil_iff.mpr fun _ _ => rfl
  rw [calls, List.filterMap_cons_some hevent, hsends]

/-- A walk finds the events of its transitions. -/
theorem Walks.events {state last : Int} {limit waiting : Duration} {done : List Fired}
    {calls : List Call} (h : Walks dialogue state limit done calls last waiting) :
    calls.filterMap Call.event? = done.map (·.transition.event) := by
  induction h with
  | nil => rfl
  | cons _ hfirst _ _ ih =>
      rw [List.filterMap_append, events_calls _ hfirst, ih]
      rfl

/-- The events on the record lead through the table, from its start to its end. -/
def Ended (dialogue : Dialogue) (calls : List Call) : Prop :=
  ∃ fired, Path dialogue 0 fired final ∧
    calls.filterMap Call.event? = fired.map (·.transition.event)

/-- What is on the record of a dialogue that has sent its command: transitions that have fired
    from the start on, and the state they have led to. -/
structure Walked (dialogue : Dialogue) (command : String) (fired : List Fired) (state : Int)
    (calls : List Call) (result : Except DialogueError Unit) : Prop where
  path : Path dialogue 0 fired state
  /-- The lines are the command and those that the transitions queue, as far as they go. -/
  lines : calls.filterMap Call.line? <+: command :: fired.flatMap (Fired.lines dialogue)
  /-- A dialogue that succeeds has come to its end, with all lines, and has found nothing but the
      events on the way. -/
  arrived : result = .ok () → state = final ∧
    calls.filterMap Call.line? = command :: fired.flatMap (Fired.lines dialogue) ∧
    calls.filterMap Call.event? = fired.map (·.transition.event)

/-- A dialogue that is cut off behind a walk. -/
theorem Walks.walked {command : String} {state : Int} {limit waiting : Duration}
    {done : List Fired} {calls : List Call} {error : DialogueError}
    (h : Walks dialogue 0 limit done calls state waiting) :
    Walked dialogue command done state (.send command (.ok ()) :: calls) (.error error) where
  path := h.path
  lines := by rw [(h.smooth.sent command).lines]; exact List.prefix_refl _
  arrived := fun hresult => nomatch hresult

/-- A dialogue that comes to a stop. -/
theorem Follows.walked {command : String} {limit : Duration} {done : List Fired}
    {last : Option Fired} {calls : List Call} {result : Except DialogueError Unit}
    (h : Follows dialogue 0 limit done last calls result) :
    ∃ state, Walked dialogue command (done ++ last.toList) state
      (.send command (.ok ()) :: calls) result := by
  obtain ⟨stop, waiting, before, after, rfl, hwalks, hstop⟩ := h.split
  have hrefines := (hwalks.smooth.sent command).refines hwalks.path hstop.refines
  refine ⟨_, hrefines.path, hrefines.lines, ?_⟩
  rintro rfl
  obtain ⟨hfinal, -, hwrites⟩ := hrefines.ok_iff.mp rfl
  refine ⟨hfinal, hrefines.written hwrites, ?_⟩
  -- nothing is done behind the walk if the stop is the end
  cases hstop with
  | arrived =>
      rw [List.append_nil, Option.toList_none, List.append_nil]
      exact hwalks.events

/-- Every run has walked through its table, however it has ended. -/
theorem Runs.walked {command : String} {fired : List Fired} {calls : List Call}
    {result : Except DialogueError Unit} (h : Runs dialogue command fired calls result) :
    ∃ state, Walked dialogue command fired state calls result := by
  cases h with
  | unsent why => exact ⟨0, .nil 0, List.prefix_refl _, fun hok => nomatch hok⟩
  | sent hgoes =>
      rcases hgoes.follows_or_walks with ⟨done, last, rfl, hfollows⟩ | ⟨stuck, _, rfl, hwalks⟩
      · exact hfollows.walked
      · exact ⟨stuck, hwalks.walked⟩

/-- **ON RECORD**: every dialogue that is run has sent its command and walked through its table,
    however it has ended. -/
theorem run_walks {σ : Type} [Session σ] (dialogue : Dialogue)
    (inRange : Session.InRange σ dialogue.events) (waits : Nat) (command : String) :
    Emits (dialogue.run (σ := Recorded σ) waits command) (fun calls result =>
      ∃ fired state, Walked dialogue command fired state calls result) := by
  refine (dialogue.run_tells inRange waits command).emits.weaken ?_
  rintro calls result ⟨_, fired, hruns, -⟩
  exact ⟨fired, hruns.walked⟩

end Upkeep.Dialogue
