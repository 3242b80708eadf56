import Upkeep.Proofs.Action
import Upkeep.Proofs.Keyed
import Upkeep.Proofs.Session.Conservation
import Upkeep.Proofs.Session.Echo
import Upkeep.Proofs.Session.Tail
import Upkeep.Session.Replay

/-! # Exchanges — a command and the text it finds

    A replayed session answers a command at once: the next reply for it arrives
    behind the text that is unread, and the first prompt in both of them ends the
    output.  So all that a command comes to is a function of this text
    (`command_answer`).

    With nothing unread, a reply made from an output by `respond` gives this
    output back (`command_undoes_respond`). -/

namespace Upkeep

namespace Pattern

variable (prompt : Pattern) (line : String) (limit : Duration) (received : Text)

/-- What a command comes to when this text has arrived and is unread. -/
def answer : Except SessionError Text :=
  match prompt.find? received with
  | none => .error (.timeout limit (lastBytes 512 received))
  | some span => .ok (stripEcho line.toList (received.take span.first))

/-- What is unread then. -/
def remains : Text :=
  match prompt.find? received with
  | none => received
  | some span => received.drop span.last

end Pattern

/-- Looking for one pattern takes its leftmost match. -/
theorem Buffer.find_single (buffer : Buffer) (pattern : Pattern) :
    (pattern.find? buffer.unread = none ∧ buffer.find [pattern] = (none, buffer)) ∨
      ∃ span found, pattern.find? buffer.unread = some span ∧
        buffer.find [pattern] = (some found, ⟨buffer.unread.drop span.last⟩) ∧
        found.before = buffer.unread.take span.first := by
  rcases buffer.find_cases [pattern] with ⟨hfind, hnone⟩ | ⟨found, behind, span, hfind, htakes⟩
  · exact Or.inl ⟨hnone pattern List.mem_cons_self, hfind⟩
  · obtain ⟨own, hown, hmatch⟩ := htakes.earliest.matched
    obtain rfl := List.mem_singleton.mp (List.mem_of_getElem? hown)
    refine Or.inr ⟨span, found, hmatch, ?_, htakes.before⟩
    rw [hfind, ← htakes.rest]

/-- Once its line is sent, a command is told by what is found then. -/
theorem Link.command_sent {σ : Type} [Session σ] {line : String} {limit : Duration}
    {link sent : Link σ} (h : Link.call (Session.send line) link = (.ok (), sent)) :
    Link.command line limit link =
      let found := Link.call (Session.expect [Session.prompt sent.session] limit) sent
      (found.1.map fun found => stripEcho line.toList found.before, found.2) := by
  rw [Link.command, Action.bind_apply, h]
  dsimp only
  rw [Action.bind_apply, Action.get_apply]
  dsimp only
  rw [Action.bind_apply]
  rcases Link.call (Session.expect [Session.prompt sent.session] limit) sent with ⟨_ | found, last⟩
  · rfl
  · rfl

namespace Replay

/-- The next reply for a line, if there is one. -/
def next? (replay : Replay) (line : String) : Option Text :=
  (takeReply (replay.queue (trimmed line))).1

variable {replay : Replay} {line : String} {reply : Text}

/-- A reply that is delivered arrives behind what is unread, and nothing else changes but the
replies that are left. -/
theorem deliver_eq (h : replay.next? line = some reply) :
    ∃ replies, replay.deliver line
      = { replay with replies, buffer := ⟨replay.buffer.unread ++ reply⟩ } := by
  rcases htake : takeReply (replay.queue (trimmed line)) with ⟨next, rest⟩
  rw [next?, htake] at h
  obtain rfl : next = some reply := h
  rw [deliver, htake]
  dsimp only
  rw [setQueue]
  split
  · exact ⟨_, rfl⟩
  · exact ⟨_, rfl⟩

/-- What is found when a prompt is waited for is told by the unread text. -/
theorem expect_answer (connected : replay.connected = true) (line : String) (limit : Duration)
    (files : Files) :
    (replay.expect [replay.prompt] limit files).result.map
        (fun found => stripEcho line.toList found.before)
        = replay.prompt.answer line limit replay.buffer.unread ∧
      (replay.expect [replay.prompt] limit files).next.buffer.unread
        = replay.prompt.remains replay.buffer.unread := by
  simp only [expect, noting, connected, ↓reduceIte]
  rw [Pattern.answer, Pattern.remains]
  rcases replay.buffer.find_single replay.prompt with
    ⟨hnone, hfind⟩ | ⟨span, found, hsome, hfind, hbefore⟩
  · rw [hnone, hfind]
    dsimp only
    rw [replay.buffer.tail_eq]
    exact ⟨rfl, rfl⟩
  · rw [hsome, hfind]
    exact ⟨congrArg (fun before => Except.ok (stripEcho line.toList before)) hbefore, rfl⟩

/-- **EXCHANGE**: what a command comes to, and what it leaves unread, is told by the unread text
and the next reply behind it. -/
theorem command_answer (connected : replay.connected = true) (h : replay.next? line = some reply)
    (limit : Duration) (host : Host) :
    (Link.command line limit ⟨replay, host⟩).1
        = replay.prompt.answer line limit (replay.buffer.unread ++ reply) ∧
      (Link.command line limit ⟨replay, host⟩).2.session.buffer.unread
        = replay.prompt.remains (replay.buffer.unread ++ reply) := by
  have hnoted : (replay.noting fun log => { log with sent := log.sent ++ [line] }).next? line
      = some reply := h
  obtain ⟨replies, hdeliver⟩ := deliver_eq hnoted
  obtain ⟨sent, hsend, hunread, hprompt, hconnected⟩ :
      ∃ sent : Link Replay, Link.call (Session.send line) ⟨replay, host⟩ = (.ok (), sent) ∧
        sent.session.buffer.unread = replay.buffer.unread ++ reply ∧
        sent.session.prompt = replay.prompt ∧ sent.session.connected = true := by
    have hcall : replay.send line host.files = .done () _ host.files := if_pos connected
    refine ⟨_, congrArg (fun outcome : Outcome Replay Unit =>
      (outcome.result, (Link.mk replay host).after outcome)) hcall, ?_, ?_, ?_⟩
    · show (deliver line _).buffer.unread = _
      rw [hdeliver]
      rfl
    · show (deliver line _).prompt = _
      rw [hdeliver]
      rfl
    · show (deliver line _).connected = _
      rw [hdeliver]
      exact connected
  rw [Link.command_sent hsend, ← hunread, ← hprompt]
  exact expect_answer hconnected line limit sent.host.files

/-! ## Replies made from outputs -/

/-- A command and its output as a device prints them, each with its line end. -/
def printed (command output : String) : Text :=
  command.toList ++ '\r' :: '\n' :: (output.toList ++ ['\r', '\n'])

/-- The reply that is queued for a command with an output: the prompt stands at its end. -/
def response (replay : Replay) (command output : String) : Text :=
  printed command output ++ (replay.hostname.toList ++ ['#'])

theorem respond_eq (replay : Replay) (command output : String) :
    replay.respond command output = replay.reply command (replay.response command output) := by
  simp [respond, response, printed]

theorem setQueue_replies (replay : Replay) (key : String) (texts : List Text) :
    (replay.setQueue key texts).replies = Keyed.set replay.replies key texts := by
  rw [setQueue, Keyed.set]
  split
  · rfl
  · rfl

/-- The replies for a line are those that were set for it. -/
theorem queue_setQueue (replay : Replay) (key : String) (texts : List Text) :
    (replay.setQueue key texts).queue key = texts := by
  rw [queue, setQueue_replies, Keyed.find?_set]

/-- A reply that is made from an output is the next one if it is the only one. -/
theorem next?_respond {command : String} (h : replay.queue (trimmed command) = [])
    (output : String) :
    (replay.respond command output).next? command = some (replay.response command output) := by
  rw [respond_eq, next?, reply, queue_setQueue, h]
  rfl

/-- What is printed is stripped to the output. -/
theorem stripEcho_printed {command : String} (hink : Inked command.toList)
    (hline : SingleLine command.toList) (output : String) :
    stripEcho command.toList (printed command output)
      = trimEnd (unifyLineEnds output.toList) := by
  have hempty : SingleLine [] := ⟨List.not_mem_nil, List.not_mem_nil⟩
  have hecho := stripEcho_echoed hink hline hempty (output.toList ++ ['\r', '\n'])
  rw [List.nil_append] at hecho
  rw [printed, hecho, unifyLineEnds_append]
  refine trimEnd_concat_blanks ?_
  show ∀ c ∈ ['\n'], isBlank c = true
  exact List.forall_mem_singleton.mpr rfl

/-- **INVERSE**: when nothing is unread and the next reply for a command was made from an output, a
command that sees no prompt in that reply but the one at its end gives the output, with its line
ends made line feeds and without blanks behind it, and leaves nothing unread. -/
theorem command_undoes_respond (connected : replay.connected = true)
    (unread : replay.buffer.unread = []) {command output : String} (hink : Inked command.toList)
    (hline : SingleLine command.toList)
    (hnext : replay.next? command = some (replay.response command output))
    (hprompt : replay.prompt.find? (replay.response command output)
      = some ⟨(printed command output).length, (replay.response command output).length⟩)
    (limit : Duration) (host : Host) :
    ∃ text after, Link.command command limit ⟨replay, host⟩ = (.ok text, after) ∧
      Plain output.toList text ∧ after.session.buffer.unread = [] := by
  obtain ⟨hanswer, hremains⟩ := command_answer connected hnext limit host
  rw [unread, List.nil_append] at hanswer hremains
  refine ⟨trimEnd (unifyLineEnds output.toList), _, Prod.ext ?_ rfl, plain_trimEnd _, ?_⟩
  · rw [hanswer, Pattern.answer, hprompt]
    dsimp only
    rw [response, List.take_left, stripEcho_printed hink hline]
  · rw [hremains, Pattern.remains, hprompt]
    exact List.drop_length

/-- A device that prints its clock with blanks, a lone carriage return and both kinds of line
ends. -/
def clock : Replay :=
  ({ prompt := .ofText "router#" } : Replay).respond " show clock " "\n12:00\r\nUTC\r+1 \t\r"

/-- All of it is given but the carriage returns and the blanks at the end. -/
theorem clock_undone :
    clock.connected = true ∧ clock.buffer.unread = [] ∧ Inked " show clock ".toList ∧
      SingleLine " show clock ".toList ∧
      clock.next? " show clock "
        = some (clock.response " show clock " "\n12:00\r\nUTC\r+1 \t\r") ∧
      clock.prompt.find? (clock.response " show clock " "\n12:00\r\nUTC\r+1 \t\r")
        = some ⟨33, 40⟩ ∧
      ∃ text after, Link.command " show clock " (.ofSecs 5) ⟨clock, { files := { root := "/" } }⟩
          = (.ok text, after) ∧
        Plain "\n12:00\r\nUTC\r+1 \t\r".toList text ∧ after.session.buffer.unread = [] := by
  have hink : Inked " show clock ".toList := ⟨'s', by decide, by decide⟩
  have hline : SingleLine " show clock ".toList := ⟨by decide, by decide⟩
  have hnext : clock.next? " show clock "
      = some (clock.response " show clock " "\n12:00\r\nUTC\r+1 \t\r") := next?_respond rfl _
  have hprompt : clock.prompt.find? (clock.response " show clock " "\n12:00\r\nUTC\r+1 \t\r")
      = some ⟨33, 40⟩ := by decide
  exact ⟨rfl, rfl, hink, hline, hnext, hprompt,
    command_undoes_respond rfl rfl hink hline hnext hprompt _ _⟩

end Replay

end Upkeep
