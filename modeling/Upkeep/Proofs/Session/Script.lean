import Upkeep.Proofs.Session.Exchange
import Upkeep.Proofs.Session.Turns

/-! # Scripts — which reply a line gets

    A replayed session is made from a script, which holds replies for lines in the
    order in which they are to be given.  The replies for one line are used up one
    after the other, all but the last, which stays.  So those that are left are
    told by the script and by how often the line has been sent (`remaining`), and
    whatever else the session is asked in between, the n-th time that a line is
    sent it gets its n-th reply, or the last one if there are fewer
    (`nth_send_gets_nth_reply`).

    Lines are told apart without the blanks around them. -/

namespace Upkeep

namespace Replay

/-! ## Replies that are left -/

/-- The replies that are left of some when one of them has been given so many times. -/
def remaining (texts : List Text) (times : Nat) : List Text :=
  texts.drop (min times (texts.length - 1))

/-- The reply that is given the n-th time, counted from 1, if there are any. -/
def nthReply? (texts : List Text) (n : Nat) : Option Text := texts[min n texts.length - 1]?

/-- **NEXT**: the reply that is given next is the one for the next time. -/
theorem takeReply_remaining (texts : List Text) (times : Nat) :
    takeReply (remaining texts times)
      = (nthReply? texts (times + 1), remaining texts (times + 1)) := by
  by_cases hlast : times + 1 < texts.length
  · -- there is another reply behind this one
    have hdrop : texts.drop times = texts[times] :: texts[times + 1] :: texts.drop (times + 2) := by
      rw [List.drop_eq_getElem_cons (by omega), List.drop_eq_getElem_cons hlast]
    have hmin : min times (texts.length - 1) = times := by omega
    have hmin' : min (times + 1) (texts.length - 1) = times + 1 := by omega
    have hplace : min (times + 1) texts.length - 1 = times := by omega
    rw [remaining, remaining, nthReply?, hmin, hmin', hplace, hdrop,
      List.getElem?_eq_getElem (by omega), List.drop_eq_getElem_cons hlast]
    rfl
  · have hmin : min times (texts.length - 1) = texts.length - 1 := by omega
    have hmin' : min (times + 1) (texts.length - 1) = texts.length - 1 := by omega
    have hplace : min (times + 1) texts.length - 1 = texts.length - 1 := by omega
    rw [remaining, remaining, nthReply?, hmin, hmin', hplace]
    cases texts with
    | nil => rfl
    | cons first rest =>
        have hlt : (first :: rest).length - 1 < (first :: rest).length := by
          rw [List.length_cons]
          omega
        rw [List.drop_eq_getElem_cons hlt, List.getElem?_eq_getElem hlt,
          List.drop_of_length_le (by omega)]
        rfl

/-- If no reply is given, there is none. -/
theorem eq_nil_of_takeReply {texts : List Text} (h : (takeReply texts).1 = none) : texts = [] := by
  match texts with
  | [] => rfl
  | [_] => exact nomatch h
  | _ :: _ :: _ => exact nomatch h

/-! ## Scripts -/

/-- The replies for another line stay as they are. -/
theorem queue_setQueue_of_ne {key other : String} (h : other ≠ key) (replay : Replay)
    (texts : List Text) : (replay.setQueue key texts).queue other = replay.queue other := by
  rw [queue, setQueue_replies, Keyed.find?_set_of_ne h]
  rfl

/-- An entry of a script: a reply for a line, as it is or made from an output. -/
inductive Entry where
  | reply (line : String) (text : Text)
  | respond (command output : String)

namespace Entry

/-- What the line is known by that the entry is for. -/
def key : Entry → String
  | reply line _ => trimmed line
  | respond command _ => trimmed command

/-- The reply, from a device with this name. -/
def text (hostname : String) : Entry → Text
  | reply _ text => text
  | respond command output => printed command output ++ (hostname.toList ++ ['#'])

end Entry

/-- Puts an entry behind those that are in a session. -/
def enter (replay : Replay) : Entry → Replay
  | .reply line text => replay.reply line text
  | .respond command output => replay.respond command output

/-- A session that is made from a script. -/
def ofScript (hostname : String) (prompt : Pattern) (connected : Bool) (script : List Entry) :
    Replay :=
  script.foldl enter { hostname, prompt, connected }

/-- The replies of a script for one line, in order. -/
def repliesFor (hostname : String) (script : List Entry) (key : String) : List Text :=
  (script.filter (·.key = key)).map (Entry.text hostname)

theorem reply_queue (replay : Replay) (line key : String) (text : Text) :
    (replay.reply line text).queue key
      = replay.queue key ++ if trimmed line = key then [text] else [] := by
  rw [reply]
  by_cases hkey : trimmed line = key
  · rw [if_pos hkey, ← hkey]
    exact queue_setQueue replay _ _
  · rw [if_neg hkey, List.append_nil]
    exact queue_setQueue_of_ne (Ne.symm hkey) replay _

/-- Entering a reply changes nothing else. -/
theorem reply_eq (replay : Replay) (line : String) (text : Text) :
    ∃ replies, replay.reply line text = { replay with replies } := by
  rw [reply, setQueue]
  split
  · exact ⟨_, rfl⟩
  · exact ⟨_, rfl⟩

theorem enter_eq (replay : Replay) (entry : Entry) :
    ∃ replies, replay.enter entry = { replay with replies } := by
  cases entry with
  | reply line text => exact reply_eq replay line text
  | respond command output => exact reply_eq replay command _

theorem enter_queue (replay : Replay) (entry : Entry) (key : String) :
    (replay.enter entry).queue key
      = replay.queue key ++ if entry.key = key then [entry.text replay.hostname] else [] := by
  cases entry with
  | reply line text => exact reply_queue replay line key text
  | respond command output =>
      show (replay.respond command output).queue key = _
      rw [respond_eq]
      exact reply_queue replay command key _

/-- The replies for a line are those that were entered for it. -/
theorem enterAll_queue (replay : Replay) (script : List Entry) (key : String) :
    (script.foldl enter replay).queue key
      = replay.queue key ++ repliesFor replay.hostname script key := by
  induction script generalizing replay with
  | nil => exact (List.append_nil _).symm
  | cons entry rest ih =>
      have hname : (replay.enter entry).hostname = replay.hostname := by
        obtain ⟨replies, henter⟩ := enter_eq replay entry
        rw [henter]
      rw [List.foldl_cons, ih, enter_queue, hname, List.append_assoc, repliesFor, repliesFor,
        List.filter_cons]
      by_cases hkey : entry.key = key
      · simp [hkey]
      · simp [hkey]

theorem ofScript_queue (hostname : String) (prompt : Pattern) (connected : Bool)
    (script : List Entry) (key : String) :
    (ofScript hostname prompt connected script).queue key = repliesFor hostname script key :=
  enterAll_queue { hostname, prompt, connected } script key

/-- Nothing else is in such a session. -/
theorem ofScript_eq (hostname : String) (prompt : Pattern) (connected : Bool)
    (script : List Entry) :
    ∃ replies, ofScript hostname prompt connected script
      = { hostname, prompt, connected, replies } := by
  have henter (replay : Replay) :
      ∃ replies, script.foldl enter replay = { replay with replies } := by
    induction script generalizing replay with
    | nil => exact ⟨replay.replies, rfl⟩
    | cons entry rest ih =>
        obtain ⟨replies, hentry⟩ := enter_eq replay entry
        rw [List.foldl_cons, hentry]
        exact ih _
  exact henter _

/-! ## Deliveries -/

/-- The replies that are left for the line are those behind the one that is delivered. -/
theorem deliver_queue (replay : Replay) (line : String) :
    (replay.deliver line).queue (trimmed line) = (takeReply (replay.queue (trimmed line))).2 := by
  rw [deliver]
  rcases htake : takeReply (replay.queue (trimmed line)) with ⟨_ | text, rest⟩
  · have hnil : replay.queue (trimmed line) = [] := by
      refine eq_nil_of_takeReply ?_
      rw [htake]
    rw [hnil] at htake ⊢
    exact congrArg Prod.snd htake
  · exact queue_setQueue replay _ rest

/-- Those for other lines stay. -/
theorem deliver_queue_of_ne (replay : Replay) {line key : String} (h : trimmed line ≠ key) :
    (replay.deliver line).queue key = replay.queue key := by
  rw [deliver]
  rcases takeReply (replay.queue (trimmed line)) with ⟨_ | text, rest⟩
  · rfl
  · exact queue_setQueue_of_ne (Ne.symm h) replay rest

/-- What is delivered goes behind what is unread, and nothing else changes but the replies. -/
theorem deliver_cases (replay : Replay) (line : String) :
    ∃ replies, replay.deliver line = { replay with
      replies, buffer := ⟨replay.buffer.unread ++ (replay.next? line).getD []⟩ } := by
  cases hnext : replay.next? line with
  | some reply => exact deliver_eq hnext
  | none =>
      refine ⟨replay.replies, ?_⟩
      rw [next?] at hnext
      rw [deliver, Option.getD_none, List.append_nil]
      rcases htake : takeReply (replay.queue (trimmed line)) with ⟨_ | text, rest⟩
      · rfl
      · rw [htake] at hnext
        exact absurd hnext (Option.some_ne_none text)

/-! ## Turns -/

/-- Whether a turn has sent the line over a connection. -/
def serves (key : String) (turn : Session.Turn Replay) : Bool :=
  match turn.call with
  | .send line _ => turn.before.connected && trimmed line = key
  | _ => false

section Turn

variable (replay : Replay) (files : Files)

/-- **TURN**: a turn that sends a line over a connection uses up a reply for it, and no other turn
    does. -/
theorem turn_queue (request : Session.Request) (key : String) :
    (request.turn replay files).behind.queue key
      = if serves key (request.turn replay files) then (takeReply (replay.queue key)).2
        else replay.queue key := by
  cases request with
  | connect => rfl
  | disconnect => rfl
  | reconnect forced => rfl
  | expect patterns limit =>
      show (replay.expect patterns limit files).next.queue key = replay.queue key
      simp only [expect]
      split
      · split
        · rfl
        · rfl
      · rfl
  | send line =>
      show (replay.send line files).next.queue key
        = if (replay.connected && trimmed line = key) = true then _ else _
      rw [send]
      cases replay.connected with
      | false => rfl
      | true =>
          rw [if_pos rfl, Bool.true_and]
          by_cases hkey : trimmed line = key
          · rw [if_pos (decide_eq_true hkey), ← hkey]
            exact deliver_queue _ line
          · rw [if_neg (by simpa using hkey)]
            exact deliver_queue_of_ne _ hkey

/-- So the replies that are left for a line are told by how often it has been sent. -/
theorem after_queue {replay : Replay} {texts : List Text} {key : String} {times : Nat}
    (h : replay.queue key = remaining texts times)
    (asked : List (Session.Request × Files)) :
    (Session.after replay asked).queue key
      = remaining texts (times + (Session.turns replay asked).countP (serves key)) := by
  induction asked generalizing replay times with
  | nil => exact h
  | cons first rest ih =>
      obtain ⟨request, files⟩ := first
      have hturn := turn_queue replay files request key
      rw [Session.turns, List.countP_cons]
      cases hserves : serves key (request.turn replay files) with
      | false =>
          rw [hserves, if_neg Bool.false_ne_true, h] at hturn
          exact ih hturn
      | true =>
          rw [hserves, if_pos rfl, h, takeReply_remaining] at hturn
          rw [if_pos rfl, Nat.add_comm _ 1, ← Nat.add_assoc]
          exact ih hturn

end Turn

/-- A line that is sent over a connection is noted, and the next reply for it arrives. -/
theorem send_connected {replay : Replay} (connected : replay.connected = true) (line : String)
    (files : Files) :
    ∃ replies, replay.send line files = .done () { replay with
      replies
      buffer := ⟨replay.buffer.unread ++ (replay.next? line).getD []⟩
      log := { replay.log with sent := replay.log.sent ++ [line] } } files := by
  obtain ⟨replies, hdeliver⟩ :=
    (replay.noting fun log => { log with sent := log.sent ++ [line] }).deliver_cases line
  refine ⟨replies, ?_⟩
  rw [send, if_pos connected, hdeliver]
  rfl

/-- Without a connection nothing happens. -/
theorem send_unconnected {replay : Replay} (unconnected : replay.connected = false)
    (line : String) (files : Files) :
    replay.send line files = .failed .notConnected replay files := by
  rw [send, if_neg]
  exact Bool.eq_false_iff.mp unconnected

/-- What a turn of a session that was made from a script does about the script, behind some
    others. -/
structure Served (hostname : String) (script : List Entry) (earlier : List (Session.Turn Replay))
    (turn : Session.Turn Replay) : Prop where
  /-- A line that is sent for the n-th time gets its n-th reply, or the last one if there are
  fewer; the reply arrives behind all that is unread, and nothing arrives if there is none. -/
  sent : ∀ line answer, turn.call = .send line answer → turn.before.connected = true →
    answer = .ok () ∧ turn.behind.log.sent = turn.before.log.sent ++ [line] ∧
      turn.behind.buffer.unread = turn.before.buffer.unread ++
        (nthReply? (repliesFor hostname script (trimmed line))
          (earlier.countP (serves (trimmed line)) + 1)).getD []
  /-- Without a connection nothing is sent, noted or used up. -/
  unsent : ∀ line answer, turn.call = .send line answer → turn.before.connected = false →
    answer = .error .notConnected ∧ turn.behind = turn.before
  /-- Whatever else is done, the next reply for a line stays the next one. -/
  kept : ∀ line, serves (trimmed line) turn = false →
    turn.behind.next? line = turn.before.next? line

/-- **STEP**: what a turn does is told by how often each line has been sent before. -/
theorem turn_served {hostname : String} {script : List Entry} {replay : Replay}
    {earlier : List (Session.Turn Replay)}
    (hleft : ∀ key, replay.queue key
      = remaining (repliesFor hostname script key) (earlier.countP (serves key)))
    (request : Session.Request) (files : Files) :
    Served hostname script earlier (request.turn replay files) := by
  have hbefore := Session.turn_before request replay files
  refine ⟨?_, ?_, ?_⟩
  · intro line answer hcall hconnected
    obtain rfl : request = .send line := Session.request_eq hcall
    have hconnected : replay.connected = true := hconnected
    obtain ⟨replies, hsend⟩ := send_connected hconnected line files
    have hunread := congrArg (fun outcome => outcome.next.buffer.unread) hsend
    dsimp only [Outcome.done] at hunread
    rw [next?, hleft, takeReply_remaining] at hunread
    injection hcall with _ hsame
    exact ⟨hsame.symm.trans (congrArg Outcome.result hsend),
      congrArg (fun outcome => outcome.next.log.sent) hsend, hunread⟩
  · intro line answer hcall hconnected
    obtain rfl : request = .send line := Session.request_eq hcall
    have hconnected : replay.connected = false := hconnected
    have hsend := send_unconnected hconnected line files
    injection hcall with _ hsame
    exact ⟨hsame.symm.trans (congrArg Outcome.result hsend), congrArg Outcome.next hsend⟩
  · intro line hother
    have hqueue := turn_queue replay files request (trimmed line)
    rw [hother, if_neg Bool.false_ne_true] at hqueue
    rw [next?, next?, hqueue, hbefore]

/-- **SCRIPT**: whatever a session is asked that was made from a script, the n-th time that a line
    is sent over a connection it gets the n-th of its replies, or the last one if there are fewer,
    and nothing but that uses them up. -/
theorem nth_send_gets_nth_reply (hostname : String) (prompt : Pattern) (connected : Bool)
    (script : List Entry) (asked : List (Session.Request × Files))
    (earlier later : List (Session.Turn Replay)) (turn : Session.Turn Replay)
    (h : Session.turns (ofScript hostname prompt connected script) asked
      = earlier ++ turn :: later) :
    Served hostname script earlier turn := by
  obtain ⟨front, request, files, rest, -, rfl, rfl, -⟩ := Session.turns_split h
  refine turn_served (fun key => ?_) request files
  have hstart : (ofScript hostname prompt connected script).queue key
      = remaining (repliesFor hostname script key) 0 := by
    rw [ofScript_queue, remaining, Nat.zero_min, List.drop_zero]
  have hafter := after_queue hstart front
  rwa [Nat.zero_add] at hafter

/-- A device that boots and is then ready. -/
def bootingScript : List Entry :=
  [.respond "show platform" "booting", .reply "show platform" "ready".toList]

/-- What it is asked before: once for its platform, and once more when it is disconnected. -/
def askedBefore : List (Session.Request × Files) :=
  [.send "show platform", .disconnect, .send "show platform", .reconnect true,
    .send "show clock"].map (·, { root := "/" })

/-- Asked again it is ready: the line that did not go out does not count. -/
theorem ready_when_asked_again :
    let device := ofScript "router" defaultPrompt true bootingScript
    let again := Session.Request.turn (.send " show platform") (Session.after device askedBefore)
      { root := "/" }
    Session.turns device (askedBefore ++ [(.send " show platform", { root := "/" })])
        = Session.turns device askedBefore ++ [again] ∧
      Served "router" bootingScript (Session.turns device askedBefore) again ∧
      (Session.turns device askedBefore).countP (serves "show platform") = 1 ∧
      again.behind.buffer.unread = "ready".toList := by
  have hsplit := Session.turns_append (ofScript "router" defaultPrompt true bootingScript)
    askedBefore [(.send " show platform", { root := "/" })]
  exact ⟨hsplit, nth_send_gets_nth_reply _ _ _ _ _ _ [] _ hsplit, rfl, rfl⟩

end Replay

end Upkeep
