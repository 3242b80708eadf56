import Upkeep.Session.Basic

/-!
# Dialogues — tables that follow a device's answers

A dialogue sends one command and then goes from state to state as the device's output shows one
event after the other. The table says which event leads where from which states, and what is done
about it. State 0 is the start and `Dialogue.final` the end.

`Transition.action` gives a response and does nothing itself: its effects are carried out by
`Dialogue.run`. What it posts, warns about and notes is done at once; the lines it queues are sent
after that, and only then does its refusal end the run.
-/

namespace Upkeep

/-- What an action sees of the transition that fires. -/
structure Firing where
  dialogue : String
  state : Int
  /-- The output before the event. -/
  before : Text
  /-- The output that is the event. -/
  event : Text

/-- What an action wants done. -/
inductive Effect where
  /-- A line for the device, sent when the action is over. -/
  | send (line : String)
  /-- A status line. -/
  | post (message : String)
  /-- A warning, kept with the job. -/
  | warn (message : String)
  /-- An entry for the journal. -/
  | note (value : Data)

/-- The lines among effects, for the device. -/
def Effect.lines (effects : List Effect) : List String :=
  effects.filterMap fun
    | .send line => some line
    | _ => none

/-- The host after an effect of the named dialogue. Lines for the device do not touch it. -/
def Effect.apply (dialogue : String) (host : Host) : Effect → Host
  | .send _ => host
  | .post message => host.postStatus message
  | .warn message =>
    (host.log .warn (dialogue ++ ": " ++ message)).saveJobInfo ("WARNING: " ++ message)
  | .note value => host.note value

/-- What an action comes to: its effects, and whether the run may go on. -/
structure Response where
  effects : List Effect := []
  accepts : Bool := true

/-- A row of the table: on an event, from some states, to a state. -/
structure Transition where
  /-- The text of the event's pattern. -/
  event : String
  sources : List Int
  next : Int
  /-- What is done when the row fires. It is told by the firing alone: an action that remembers
  something from one firing to the next is none of these. -/
  action : Option (Firing → Response) := none
  /-- The limit of the waits from here on. -/
  limit : Option Duration := none

/-- Whether the transition is for an event in a state. -/
def Transition.firesOn (transition : Transition) (event : String) (state : Int) : Bool :=
  transition.event = event && transition.sources.contains state

/-- A table with the events to look for. -/
structure Dialogue where
  name : String
  events : List Pattern
  transitions : List Transition
  /-- The limit of waits until a transition sets another one. -/
  limit : Duration := .ofSecs 60

/-- Why a dialogue does not reach its end. -/
inductive DialogueError where
  | timeout (dialogue : String) (state : Int) (lastOutput : Text)
  | unexpectedEvent (dialogue event : String) (state : Int)
  | actionFailed (dialogue event : String) (state : Int)
  | session (dialogue : String) (error : SessionError)
  /-- The run made as many waits as it was allowed. -/
  | unfinished (dialogue : String) (state : Int)
  deriving DecidableEq, Repr

/-- The failure in words. -/
def DialogueError.message : DialogueError → String
  | .timeout dialogue state lastOutput =>
    dialogue ++ ": timed out in state " ++ toString state ++ "; last output: " ++
      quoted (String.ofList lastOutput)
  | .unexpectedEvent dialogue event state =>
    dialogue ++ ": unexpected event '" ++ event ++ "' in state " ++ toString state
  | .actionFailed dialogue event state =>
    dialogue ++ ": action for '" ++ event ++ "' failed in state " ++ toString state
  | .session dialogue error => dialogue ++ ": " ++ error.message
  | .unfinished dialogue state => dialogue ++ ": not finished in state " ++ toString state

namespace Dialogue

/-- The state in which a dialogue is over. -/
def final : Int := -1

/-- The first transition for an event in a state. -/
def transition? (dialogue : Dialogue) (event : String) (state : Int) : Option Transition :=
  dialogue.transitions.find? (·.firesOn event state)

variable {σ : Type} [Session σ]

/-- Sends lines one after the other. -/
def sendLines (dialogue : Dialogue) : List String → LinkM DialogueError σ Unit
  | [] => pure ()
  | line :: rest => do
    Link.mapError (.session dialogue.name) (Link.call (Session.send line))
    sendLines dialogue rest

/-- Waits for one of the events. -/
def awaitEvent (dialogue : Dialogue) (state : Int) (limit : Duration) :
    LinkM DialogueError σ Match :=
  Link.mapError
    (fun
      | .timeout _ tail => .timeout dialogue.name state tail
      | error => .session dialogue.name error)
    (Link.call (Session.expect dialogue.events limit))

/-- Carries out the action of a transition that fires. -/
def act (dialogue : Dialogue) (transition : Transition) (state : Int) (found : Match) :
    LinkM DialogueError σ Unit :=
  match transition.action with
  | none => pure ()
  | some action => do
    let response := action ⟨dialogue.name, state, found.before, found.text⟩
    Link.onHost (response.effects.foldl (Effect.apply dialogue.name))
    dialogue.sendLines (Effect.lines response.effects)
    if !response.accepts then
      throw (.actionFailed dialogue.name transition.event state)

/-- Follows the table from a state on with at most so many waits. -/
def follow (dialogue : Dialogue) : Nat → Int → Duration → LinkM DialogueError σ Unit
  | 0, state, _ => throw (.unfinished dialogue.name state)
  | waits + 1, state, limit => do
    let found ← dialogue.awaitEvent state limit
    let event := match dialogue.events[found.index]? with
      | some pattern => pattern.text
      | none => ""
    match dialogue.transition? event state with
    | none => throw (.unexpectedEvent dialogue.name event state)
    | some transition => do
      Link.log .debug (dialogue.name ++ ": '" ++ event ++ "' " ++ toString state ++ " -> " ++
        toString transition.next)
      dialogue.act transition state found
      if transition.next = final then pure ()
      else dialogue.follow waits transition.next (transition.limit.getD limit)

/-- Sends the command and follows the table until its end. -/
def run (dialogue : Dialogue) (waits : Nat) (command : String) : LinkM DialogueError σ Unit := do
  Link.log .debug (dialogue.name ++ ": sending '" ++ command ++ "'")
  dialogue.sendLines [command]
  dialogue.follow waits 0 dialogue.limit

end Dialogue

/-- Answers a question with an empty line. -/
def sendNewline (_ : Firing) : Response := { effects := [.send ""] }

/-- Warns with the last line of the event and ends the run. -/
def reportError (firing : Firing) : Response where
  effects := [.warn (String.ofList ((lines (trim firing.event)).getLast?.getD []))]
  accepts := false

end Upkeep
