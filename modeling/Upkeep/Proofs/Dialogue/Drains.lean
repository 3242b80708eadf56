import Upkeep.Proofs.Dialogue.Table
import Upkeep.Proofs.Pattern.Consuming
import Upkeep.Proofs.Session.Buffer
import Upkeep.Proofs.Session.Turns
import Upkeep.Proofs.Text.Ascii

/-! # Drains — a dialogue that cannot go on forever

    A table may lead in circles, and nothing in it says when a dialogue is to
    end.  Over a replayed session it does end, if each match takes a character
    and no action asks for more: then all there is to read is what is unread when
    the command has been sent, and every wait that finds something leaves less of
    it.  So a dialogue makes one wait more than there are bytes at most, and it
    does not matter how many more it is allowed (`run_drains`).

    Both conditions are needed.  A match that takes nothing is found again and
    again, and an action that sends a line may get as much text for it as has been
    taken. -/

namespace Upkeep

/-! ## Text that is taken -/

theorem byteLength_pos {text : List Char} (h : 0 < text.length) : 0 < byteLength text := by
  obtain ⟨c, rest, rfl⟩ := List.exists_cons_of_length_pos h
  exact Nat.add_pos_left (Char.utf8Size_pos c) _

/-- Taking a match of consuming patterns leaves fewer bytes. -/
theorem Buffer.Takes.shortens {patterns : List Pattern} {buffer behind : Buffer} {found : Match}
    {span : Pattern.Span} (hconsuming : ∀ pattern ∈ patterns, pattern.Consuming)
    (h : Takes patterns buffer found behind span) :
    byteLength behind.unread < byteLength buffer.unread := by
  obtain ⟨pattern, hpattern, hmatch⟩ := h.earliest.matched
  have hfilled := hconsuming pattern (List.mem_of_getElem? hpattern) _ _ hmatch
  have htaken : 0 < (buffer.unread.take span.last).length := by
    rw [List.length_take_of_le h.within.last_le]
    exact Nat.lt_of_le_of_lt (Nat.zero_le _) hfilled
  rw [h.rest, ← List.take_append_drop span.last buffer.unread, byteLength_append,
    List.take_append_drop]
  exact Nat.lt_add_of_pos_left (byteLength_pos htaken)

/-- So does a wait that finds one. -/
theorem Replay.wait_shortens {patterns : List Pattern}
    (hconsuming : ∀ pattern ∈ patterns, pattern.Consuming) {request : Session.Request}
    {replay : Replay} {files : Files} {limit : Duration} {found : Match}
    (h : (request.turn replay files).call = .expect patterns limit (.ok found)) :
    byteLength (request.turn replay files).behind.buffer.unread
      < byteLength replay.buffer.unread := by
  obtain rfl : request = .expect patterns limit := Session.request_eq h
  injection h with _ _ hfound
  have hfound : (replay.expect patterns limit files).result = .ok found := hfound
  show byteLength (replay.expect patterns limit files).next.buffer.unread < _
  rcases replay.expect_cases patterns limit files with
    ⟨error, hfailed⟩ | ⟨first, behind, span, -, htakes, hdone⟩
  · rw [hfailed] at hfound
    exact nomatch hfound
  · rw [hdone]
    exact htakes.shortens hconsuming

/-- So does every wait of a row. -/
theorem Replay.turns_shorten {patterns : List Pattern}
    (consuming : ∀ pattern ∈ patterns, pattern.Consuming) {replay : Replay}
    {asked : List (Session.Request × Files)} {turn : Session.Turn Replay}
    (hturn : turn ∈ Session.turns replay asked) {limit : Duration}
    {answer : Except SessionError Match} (hcall : turn.call = .expect patterns limit answer)
    {found : Match} (hfound : turn.call.found? = some found) :
    byteLength turn.behind.buffer.unread < byteLength turn.before.buffer.unread := by
  obtain ⟨front, request, files, rest, -, rfl⟩ := Session.turn_of_mem hturn
  rw [Session.turn_before]
  rw [hcall] at hfound
  cases answer with
  | error why => exact nomatch hfound
  | ok other => exact wait_shortens consuming hcall

/-- What a replayed session is like when a line has been sent does not depend on the files. -/
theorem Replay.send_next (replay : Replay) (line : String) (files other : Files) :
    (replay.send line files).next = (replay.send line other).next := by
  rw [send, send]
  split
  · rfl
  · rfl

namespace Dialogue

/-- No action of the dialogue queues a line. -/
def Quiet (dialogue : Dialogue) : Prop :=
  ∀ transition ∈ dialogue.transitions, ∀ action ∈ transition.action, ∀ firing,
    Effect.lines (action firing).effects = []

/-! ## Waits -/

section Waits

variable {σ : Type} {dialogue : Dialogue}

/-- Waits of a dialogue that is allowed so many of them, one after the other.  All but the last find
    something, and so does the last if the dialogue is cut off. -/
inductive Waits (dialogue : Dialogue) :
    Nat → List (Session.Turn σ) → Except DialogueError Unit → Prop where
  | cutOff (state : Int) : Waits dialogue 0 [] (.error (.unfinished dialogue.name state))
  | last {waits : Nat} {turn : Session.Turn σ} {limit : Duration}
      {answer : Except SessionError Match} {result : Except DialogueError Unit} :
      turn.call = .expect dialogue.events limit answer →
      (∀ state, result ≠ .error (.unfinished dialogue.name state)) →
      Waits dialogue (waits + 1) [turn] result
  | more {waits : Nat} {turn : Session.Turn σ} {limit : Duration} {found : Match}
      {row : List (Session.Turn σ)} {result : Except DialogueError Unit} :
      turn.call = .expect dialogue.events limit (.ok found) → Waits dialogue waits row result →
      Waits dialogue (waits + 1) (turn :: row) result

/-- All of them are for the events of the dialogue. -/
theorem Waits.asks {waits : Nat} {row : List (Session.Turn σ)} {result : Except DialogueError Unit}
    (h : Waits dialogue waits row result) :
    ∀ turn ∈ row, ∃ limit answer, turn.call = .expect dialogue.events limit answer := by
  induction h with
  | cutOff state => exact List.forall_mem_nil _
  | last hcall _ => exact List.forall_mem_singleton.mpr ⟨_, _, hcall⟩
  | more hcall _ ih => exact List.forall_mem_cons.mpr ⟨⟨_, _, hcall⟩, ih⟩

variable [Session σ]

/-- A wait gives a match, or an error that does not say that the dialogue was cut off. -/
theorem awaitEvent_plays (dialogue : Dialogue) (state : Int) (limit : Duration) :
    Session.Plays (dialogue.awaitEvent (σ := Recorded σ) state limit) (fun row result =>
      ∃ turn answer, row = [turn] ∧ turn.call = .expect dialogue.events limit answer ∧
        ((∃ found, answer = .ok found ∧ result = .ok found) ∨
          ∃ error, result = .error error ∧ ∀ state, error ≠ .unfinished dialogue.name state)) := by
  refine (Session.Plays.mapError _ (.expect dialogue.events limit)).weaken ?_
  rintro row result ⟨answer, rfl, turn, rfl, hcall⟩
  refine ⟨turn, answer, rfl, hcall, ?_⟩
  cases answer with
  | ok found => exact Or.inl ⟨found, rfl, rfl⟩
  | error why =>
      refine Or.inr ⟨_, rfl, fun state => ?_⟩
      cases why with
      | timeout waited tail => exact nofun
      | connectionLost => exact nofun
      | notConnected => exact nofun
      | invalidUrl url => exact nofun
      | io error => exact nofun

/-- An action of a quiet dialogue asks the session nothing. -/
theorem act_plays (quiet : dialogue.Quiet) {transition : Transition}
    (hmem : transition ∈ dialogue.transitions) (state : Int) (found : Match) :
    Session.Plays (dialogue.act (σ := Recorded σ) transition state found) (fun row result =>
      row = [] ∧ ∀ state, result ≠ .error (.unfinished dialogue.name state)) := by
  rw [act]
  cases haction : transition.action with
  | none => exact .pure ⟨rfl, by simp⟩
  | some action =>
      have hlines := quiet transition hmem action haction
        ⟨dialogue.name, state, found.before, found.text⟩
      -- what is left of the action is its effect on the host, and its say
      simp only [hlines, sendLines, pure_bind]
      refine .afterHost _ ?_
      cases (action ⟨dialogue.name, state, found.before, found.text⟩).accepts with
      | true => exact .pure ⟨rfl, by simp⟩
      | false => exact .throw ⟨rfl, by simp⟩

/-- **LOOP**: what the loop of a quiet dialogue does is a row of waits. -/
theorem follow_plays (quiet : dialogue.Quiet) (waits : Nat) (state : Int) (limit : Duration) :
    Session.Plays (dialogue.follow (σ := Recorded σ) waits state limit)
      (Waits dialogue waits) := by
  induction waits generalizing state limit with
  | zero => exact .throw (.cutOff state)
  | succ waits ih =>
      refine .bind (dialogue.awaitEvent_plays state limit) ?_ ?_
      · rintro row error ⟨turn, answer, rfl, hcall, ⟨_, -, hresult⟩ | ⟨_, hresult, hother⟩⟩
        · exact nomatch hresult
        · obtain rfl := Except.error.inj hresult
          exact .last hcall fun state hcut => hother state (Except.error.inj hcut)
      · rintro row found ⟨turn, answer, rfl, hcall, ⟨_, rfl, hresult⟩ | ⟨_, hresult, -⟩⟩
        · obtain rfl := Except.ok.inj hresult
          dsimp only
          cases htransition : dialogue.transition? _ state with
          | none => exact .throw (.last hcall nofun)
          | some transition =>
              have hmem := List.mem_of_find?_eq_some htransition
              refine .afterHost _ (.bind (act_plays quiet hmem state found) ?_ ?_)
              · rintro row error ⟨rfl, hother⟩
                exact .last hcall hother
              · rintro row ⟨⟩ ⟨rfl, -⟩
                by_cases hfinal : transition.next = final
                · rw [if_pos hfinal]
                  exact .pure (.last hcall nofun)
                · rw [if_neg hfinal]
                  exact (ih _ _).weaken fun more result hmore => .more hcall hmore
        · exact nomatch hresult

/-- The turns of a run: the command is not sent, or it is and waits follow. -/
inductive Spends (dialogue : Dialogue) (waits : Nat) (command : String) :
    List (Session.Turn σ) → Except DialogueError Unit → Prop where
  | unsent {turn : Session.Turn σ} {error : SessionError} :
      turn.call = .send command (.error error) →
      Spends dialogue waits command [turn] (.error (.session dialogue.name error))
  | sent {turn : Session.Turn σ} {row : List (Session.Turn σ)}
      {result : Except DialogueError Unit} :
      turn.call = .send command (.ok ()) → Waits dialogue waits row result →
      Spends dialogue waits command (turn :: row) result

/-- **RUN**: what a run of a quiet dialogue does is to send its command and to wait. -/
theorem run_plays (quiet : dialogue.Quiet) (waits : Nat) (command : String) :
    Session.Plays (dialogue.run (σ := Recorded σ) waits command)
      (Spends dialogue waits command) := by
  have hsend := Session.Plays.mapError (DialogueError.session dialogue.name)
    (.send (σ := σ) command)
  simp only [run, sendLines, bind_assoc, pure_bind]
  refine .afterHost _ (.bind hsend ?_ ?_)
  · rintro row error ⟨answer, hresult, turn, rfl, hcall⟩
    cases answer with
    | ok => cases hresult
    | error why =>
        obtain rfl := Except.error.inj hresult
        exact .unsent hcall
  · rintro row ⟨⟩ ⟨answer, hresult, turn, rfl, hcall⟩
    cases answer with
    | error why => cases hresult
    | ok =>
        refine (follow_plays quiet waits 0 dialogue.limit).weaken ?_
        exact fun later result hwaits => .sent hcall hwaits

/-- So these are the turns of a run that is not recorded. -/
theorem run_spends (quiet : dialogue.Quiet) (waits : Nat) (command : String) (link : Link σ) :
    ∃ asked,
      dialogue.Records waits command link
        ((Session.turns link.session asked).map Session.Turn.call) ∧
      (dialogue.run waits command link).2.session = Session.after link.session asked ∧
      Spends dialogue waits command (Session.turns link.session asked)
        (dialogue.run waits command link).1 := by
  obtain ⟨asked, hcalls, hsession, hspends⟩ := run_plays quiet waits command link.recording
  refine ⟨asked, records_of_calls hcalls, ?_, ?_⟩
  · rw [dialogue.run_recording waits command link]
    exact hsession
  · rw [dialogue.run_recording waits command link]
    exact hspends

end Waits

/-! ## Replayed sessions -/

/-- **DRAIN**: a row of waits is one wait longer at most than there are bytes unread, and it is not
    cut off if it is allowed more waits than that. -/
theorem Waits.drains {dialogue : Dialogue}
    (consuming : ∀ pattern ∈ dialogue.events, pattern.Consuming) {waits : Nat}
    {row : List (Session.Turn Replay)} {result : Except DialogueError Unit}
    (h : Waits dialogue waits row result) {replay : Replay}
    {asked : List (Session.Request × Files)} (hrow : row = Session.turns replay asked) :
    row.length ≤ byteLength replay.buffer.unread + 1 ∧
      (byteLength replay.buffer.unread < waits →
        ∀ state, result ≠ .error (.unfinished dialogue.name state)) := by
  induction h generalizing replay asked with
  | cutOff state => exact ⟨Nat.zero_le _, fun hlt => absurd hlt (Nat.not_lt_zero _)⟩
  | last hcall hother => exact ⟨Nat.le_add_left 1 _, fun _ => hother⟩
  | more hcall _ ih =>
      cases asked with
      | nil => exact nomatch hrow
      | cons first rest =>
          obtain ⟨rfl, hlater⟩ := List.cons.inj hrow
          -- the others begin with fewer bytes than this one
          have hshorter := Replay.wait_shortens consuming hcall
          obtain ⟨hlength, hfinished⟩ := ih hlater
          refine ⟨?_, fun hlt => hfinished (by omega)⟩
          rw [List.length_cons]
          omega

/-- The turns of a run over a replayed session with so many bytes unread when the command has been
    sent. -/
structure Drained (dialogue : Dialogue) (command : String) (unread : Nat)
    (row : List (Session.Turn Replay)) : Prop where
  /-- The command comes first. -/
  first : ∃ turn ∈ row.head?, ∃ answer, turn.call = .send command answer
  /-- Behind it there are waits for the events, one more than there are bytes at most. -/
  asks : ∀ turn ∈ row.tail, ∃ limit answer, turn.call = .expect dialogue.events limit answer
  length_le : row.tail.length ≤ unread + 1
  /-- Each of them that finds something leaves fewer bytes. -/
  shortens : ∀ turn ∈ row.tail, ∀ found, turn.call.found? = some found →
    byteLength turn.behind.buffer.unread < byteLength turn.before.buffer.unread

/-- **SPENT**: what a run has done over a replayed session, and that it was not cut off if it was
    allowed more waits than there were bytes. -/
theorem Spends.drained {dialogue : Dialogue}
    (consuming : ∀ pattern ∈ dialogue.events, pattern.Consuming) {waits : Nat} {command : String}
    {replay : Replay} {asked : List (Session.Request × Files)} {result : Except DialogueError Unit}
    (h : Spends dialogue waits command (Session.turns replay asked) result) (files : Files) :
    let unread := byteLength (replay.send command files).next.buffer.unread
    Drained dialogue command unread (Session.turns replay asked) ∧
      (unread < waits → ∀ state, result ≠ .error (.unfinished dialogue.name state)) := by
  intro unread
  cases asked with
  | nil => exact nomatch h
  | cons first rest =>
      obtain ⟨request, sending⟩ := first
      generalize hrow : Session.turns replay ((request, sending) :: rest) = row at h ⊢
      cases h with
      | unsent hcall =>
          refine ⟨⟨⟨_, rfl, _, hcall⟩, List.forall_mem_nil _, Nat.zero_le _, ?_⟩, fun _ => nofun⟩
          exact fun _ hturn => nomatch hturn
      | sent hcall hwaits =>
          obtain ⟨rfl, hlater⟩ := List.cons.inj hrow
          obtain rfl : request = .send command := Session.request_eq hcall
          obtain ⟨hlength, hfinished⟩ := hwaits.drains consuming hlater.symm
          have hunread : byteLength (replay.send command sending).next.buffer.unread = unread := by
            rw [replay.send_next command sending files]
          rw [← hunread]
          refine ⟨⟨⟨_, rfl, _, hcall⟩, hwaits.asks, hlength, ?_⟩, hfinished⟩
          intro turn hturn found hfound
          obtain ⟨limit, answer, hexpect⟩ := hwaits.asks turn hturn
          rw [← hlater] at hturn
          exact Replay.turns_shorten consuming hturn hexpect hfound

/-- **DRAINS**: over a replayed session a dialogue comes to its end if its patterns are consuming
    and its actions queue no lines, wherever its table leads.  It makes one wait more at most than
    there are bytes unread when the command has been sent, each wait that finds something leaves
    fewer of them, and what more it is allowed does not matter. -/
theorem run_drains (dialogue : Dialogue)
    (consuming : ∀ pattern ∈ dialogue.events, pattern.Consuming) (quiet : dialogue.Quiet)
    (command : String) (link : Link Replay) :
    let unread := byteLength (link.session.send command link.host.files).next.buffer.unread
    (∀ waits, unread < waits →
      (∀ state, (dialogue.run waits command link).1
        ≠ .error (.unfinished dialogue.name state)) ∧
      dialogue.run waits command link = dialogue.run (unread + 1) command link) ∧
    ∀ waits, ∃ asked,
      dialogue.Records waits command link
        ((Session.turns link.session asked).map Session.Turn.call) ∧
      (dialogue.run waits command link).2.session = Session.after link.session asked ∧
      Drained dialogue command unread (Session.turns link.session asked) := by
  intro unread
  have hfinished (waits : Nat) (hlt : unread < waits) :
      ∀ state, (dialogue.run waits command link).1
        ≠ .error (.unfinished dialogue.name state) := by
    obtain ⟨asked, -, -, hspends⟩ := run_spends quiet waits command link
    exact (hspends.drained consuming link.host.files).2 hlt
  refine ⟨fun waits hlt => ⟨hfinished waits hlt, ?_⟩, fun waits => ?_⟩
  · have hmore := dialogue.run_more (unread + 1) (waits - (unread + 1)) command link
      (hfinished (unread + 1) (Nat.lt_succ_self unread))
    rwa [Nat.add_sub_cancel' hlt] at hmore
  · obtain ⟨asked, hrecords, hsession, hspends⟩ := run_spends quiet waits command link
    exact ⟨asked, hrecords, hsession, (hspends.drained consuming link.host.files).1⟩

/-- A dialogue that counts the dots by which a device shows its progress, and never ends by
    itself. -/
def dotted : Dialogue where
  name := "copy"
  events := [.ofText "\\."]
  transitions := [{ event := "\\.", sources := [0], next := 0 }]

/-- A device that shows three of them. -/
def dottedDevice : Link Replay where
  session := ({} : Replay).reply "copy" "...".toList
  host := { files := { root := "/" } }

/-- Three waits find a dot each, and the fourth one finds nothing. -/
theorem dotted_drains :
    (∀ pattern ∈ dotted.events, pattern.Consuming) ∧ dotted.Quiet ∧
      byteLength (dottedDevice.session.send "copy" dottedDevice.host.files).next.buffer.unread = 3 ∧
      (dotted.run 3 "copy" dottedDevice).1 = .error (.unfinished "copy" 0) ∧
      (dotted.run 4 "copy" dottedDevice).1 = .error (.timeout "copy" 0 []) ∧
      ∀ waits, 3 < waits →
        dotted.run waits "copy" dottedDevice = dotted.run 4 "copy" dottedDevice := by
  have hconsuming : ∀ pattern ∈ dotted.events, pattern.Consuming := by
    have hopens : Pattern.Opens (Pattern.ofText "\\.").code [0] := by decide +kernel
    exact List.forall_mem_singleton.mpr hopens.consuming
  have hquiet : dotted.Quiet :=
    List.forall_mem_singleton.mpr fun _ haction => nomatch haction
  have hunread :
      byteLength (dottedDevice.session.send "copy" dottedDevice.host.files).next.buffer.unread
        = 3 := by decide +kernel
  obtain ⟨hfinished, -⟩ := run_drains dotted hconsuming hquiet "copy" dottedDevice
  rw [hunread] at hfinished
  refine ⟨hconsuming, hquiet, hunread, by decide +kernel, by decide +kernel, ?_⟩
  exact fun waits hlt => (hfinished waits hlt).2

end Dialogue

end Upkeep
