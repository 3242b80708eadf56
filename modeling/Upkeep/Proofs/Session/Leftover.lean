import Upkeep.Proofs.Session.Exchange

/-! # Leftover text — whose output a command gives

    A command does not throw away what is unread before it sends its line.  So
    text that came before is read first, as if the reply began with it, and a
    command gives the output that it would give without that text exactly if
    both are answered alike (`command_undisturbed_iff`).

    When the reply begins with the echo of the command and no prompt is seen
    before its own, this has a short form: no line may be ended in the leftover
    text, for a line that is ended there is taken for output or for the echo,
    and the echo itself for output.  A prompt in the leftover text ends the
    output before the reply is looked at. -/

namespace Upkeep

/-- The reply is answered alike with text in front of it and without: both times no prompt is
found, and the end that is shown is the same, or both times one is, and the same is left of the
text before it. -/
inductive Undisturbed (prompt : Pattern) (line : String) (unread reply : Text) : Prop where
  | silent :
      prompt.find? (unread ++ reply) = none → prompt.find? reply = none →
      lastBytes 512 (unread ++ reply) = lastBytes 512 reply →
      Undisturbed prompt line unread reply
  | answered {found own : Pattern.Span} :
      prompt.find? (unread ++ reply) = some found → prompt.find? reply = some own →
      stripEcho line.toList ((unread ++ reply).take found.first)
        = stripEcho line.toList (reply.take own.first) →
      Undisturbed prompt line unread reply

/-- Two answers are the same exactly if the texts are answered alike. -/
theorem answer_eq_iff {prompt : Pattern} {line : String} {limit : Duration}
    {unread reply : Text} :
    prompt.answer line limit (unread ++ reply) = prompt.answer line limit reply ↔
      Undisturbed prompt line unread reply := by
  rw [Pattern.answer, Pattern.answer]
  constructor
  · intro h
    cases hfound : prompt.find? (unread ++ reply) with
    | none =>
        cases hown : prompt.find? reply with
        | none =>
            rw [hfound, hown] at h
            have htail := Except.error.inj h
            exact .silent hfound hown (SessionError.timeout.inj htail).2
        | some own =>
            rw [hfound, hown] at h
            cases h
    | some found =>
        cases hown : prompt.find? reply with
        | none =>
            rw [hfound, hown] at h
            cases h
        | some own =>
            rw [hfound, hown] at h
            exact .answered hfound hown (Except.ok.inj h)
  · rintro (⟨hfound, hown, htail⟩ | ⟨hfound, hown, houtput⟩)
    · rw [hfound, hown]
      dsimp only
      rw [htail]
    · rw [hfound, hown]
      dsimp only
      rw [houtput]

/-! ## Before an echo -/

section Echo

variable {command before left : List Char}

/-- As long as the echo is there, more is left than the output. -/
theorem length_trimEnd_echo (hink : Inked command) (hcommand : SingleLine command)
    (front body : List Char) :
    (trimEnd (unifyLineEnds body)).length
      < (trimEnd (front ++ unifyLineEnds (before ++ command ++ '\r' :: '\n' :: body))).length := by
  have hsplit : front ++ unifyLineEnds (before ++ command ++ '\r' :: '\n' :: body)
      = (front ++ unifyLineEnds before ++ command ++ ['\n']) ++ unifyLineEnds body := by
    rw [unifyLineEnds_append, unifyLineEnds_append, hcommand.unifyLineEnds_eq]
    simp [unifyLineEnds]
  have hfront : Inked (front ++ unifyLineEnds before ++ command ++ ['\n']) := by
    obtain ⟨c, hc, hcink⟩ := hink
    exact ⟨c, List.mem_append_left _ (List.mem_append_right _ hc), hcink⟩
  rw [hsplit]
  exact length_trimEnd_lt hfront _

/-- If a line is ended before the echo, the echo is no longer in the first line, so it stays. -/
theorem length_stripEcho_ended (hink : Inked command) (hcommand : SingleLine command)
    (hleft : '\n' ∈ opened left) (body : List Char) :
    (trimEnd (unifyLineEnds body)).length
      < (stripEcho command (left ++ (before ++ command ++ '\r' :: '\n' :: body))).length := by
  have hopened : opened (left ++ (before ++ command ++ '\r' :: '\n' :: body))
      = opened left ++ unifyLineEnds (before ++ command ++ '\r' :: '\n' :: body) :=
    opened_append_of_ne_nil (List.ne_nil_of_mem hleft)
  obtain ⟨first, more, hfirst, hfeed⟩ := List.eq_append_cons_of_mem hleft
  have hlines : opened (left ++ (before ++ command ++ '\r' :: '\n' :: body))
      = first ++ '\n' :: (more ++ unifyLineEnds (before ++ command ++ '\r' :: '\n' :: body)) := by
    rw [hopened, hfirst, List.append_assoc, List.cons_append]
  by_cases hecho : trim command <:+ trimEnd first
  · -- the line is taken for the echo
    rw [stripEcho_dropped hlines hfeed hecho]
    exact length_trimEnd_echo hink hcommand more body
  · rw [stripEcho_kept hlines hfeed hecho, hopened]
    exact length_trimEnd_echo hink hcommand (opened left) body

/-- **ECHO**: text in front of a reply that begins with the echo makes no difference exactly if no
line is ended in it, empty ones at its start aside. -/
theorem stripEcho_left_iff (hink : Inked command) (hcommand : SingleLine command)
    (hbefore : SingleLine before) (body : List Char) :
    stripEcho command (left ++ (before ++ command ++ '\r' :: '\n' :: body))
        = stripEcho command (before ++ command ++ '\r' :: '\n' :: body) ↔
      '\n' ∉ opened left := by
  rw [stripEcho_echoed hink hcommand hbefore body]
  constructor
  · intro hsame hended
    have hlonger : (trimEnd (unifyLineEnds body)).length
        < (stripEcho command (left ++ (before ++ command ++ '\r' :: '\n' :: body))).length :=
      length_stripEcho_ended hink hcommand hended body
    rw [hsame] at hlonger
    exact Nat.lt_irrefl _ hlonger
  · intro hopen
    by_cases hnil : opened left = []
    · -- only empty lines are in front
      rw [stripEcho_congr (opened_append_of_nil hnil)]
      exact stripEcho_echoed hink hcommand hbefore body
    · have hline : opened (left ++ (before ++ command ++ '\r' :: '\n' :: body))
          = (opened left ++ before ++ command) ++ '\n' :: unifyLineEnds body := by
        rw [opened_append_of_ne_nil hnil, unifyLineEnds_append,
          (hbefore.append hcommand).unifyLineEnds_eq]
        simp [unifyLineEnds]
      have hfeed : '\n' ∉ opened left ++ before ++ command := by
        simp [hopen, hbefore.noFeed, hcommand.noFeed]
      exact stripEcho_dropped hline hfeed (trim_suffix_trimEnd_append hink _)

end Echo

namespace Replay

/-- The session with its unread text thrown away. -/
def discarded (replay : Replay) : Replay := { replay with buffer := replay.buffer.clear }

/-- **LEFTOVER**: a command comes to the same with unread text and without it exactly if that text
leaves the reply undisturbed.  In front of an echo, and as long as the prompt is still found where
the reply has it, it does so exactly if no line is ended in it, empty ones at its start aside.  A
prompt that is found in the unread text ends the output there, whatever the reply is. -/
theorem command_undisturbed_iff {replay : Replay} {line : String} {reply : Text}
    (connected : replay.connected = true) (hnext : replay.next? line = some reply)
    (limit : Duration) (host : Host) :
    ((Link.command line limit ⟨replay, host⟩).1
        = (Link.command line limit ⟨replay.discarded, host⟩).1 ↔
      Undisturbed replay.prompt line replay.buffer.unread reply) ∧
    (∀ before body own, Inked line.toList → SingleLine line.toList → SingleLine before →
      reply.take own.first = before ++ line.toList ++ '\r' :: '\n' :: body →
      replay.prompt.find? reply = some own →
      replay.prompt.find? (replay.buffer.unread ++ reply)
        = some ⟨replay.buffer.unread.length + own.first, replay.buffer.unread.length + own.last⟩ →
      ((Link.command line limit ⟨replay, host⟩).1
          = (Link.command line limit ⟨replay.discarded, host⟩).1 ↔
        '\n' ∉ opened replay.buffer.unread)) ∧
    ∀ found, replay.prompt.find? (replay.buffer.unread ++ reply) = some found →
      found.first ≤ replay.buffer.unread.length →
      (Link.command line limit ⟨replay, host⟩).1
        = .ok (stripEcho line.toList (replay.buffer.unread.take found.first)) := by
  have hfound := (command_answer connected hnext limit host).1
  have hown : (Link.command line limit ⟨replay.discarded, host⟩).1
      = replay.prompt.answer line limit reply := by
    have hconnected : replay.discarded.connected = true := connected
    exact (command_answer hconnected hnext limit host).1
  rw [hfound, hown]
  refine ⟨answer_eq_iff, ?_, ?_⟩
  · intro before body own hink hline hbefore hreply hsee hshift
    rw [Pattern.answer, Pattern.answer, hsee, hshift]
    dsimp only
    rw [Except.ok.injEq, List.take_length_add_append, hreply]
    exact stripEcho_left_iff hink hline hbefore body
  · intro found hsee hle
    rw [Pattern.answer, hsee]
    dsimp only
    rw [List.take_append_of_le_length hle]

/-- A device that prints a mark of its own behind a prompt. -/
def marked : Replay :=
  ({ prompt := .ofText "router#", buffer := ⟨"\r\n* ".toList⟩ } : Replay).respond
    "show clock" "12:00:00"

/-- The mark makes no difference: it ends no line but the empty one that it begins with. -/
theorem marked_undisturbed :
    marked.connected = true ∧
      marked.next? "show clock" = some (marked.response "show clock" "12:00:00") ∧
      marked.prompt.find? (marked.response "show clock" "12:00:00") = some ⟨22, 29⟩ ∧
      marked.prompt.find? (marked.buffer.unread ++ marked.response "show clock" "12:00:00")
        = some ⟨26, 33⟩ ∧
      ∀ limit host, (Link.command "show clock" limit ⟨marked, host⟩).1
        = (Link.command "show clock" limit ⟨marked.discarded, host⟩).1 := by
  have hnext : marked.next? "show clock" = some (marked.response "show clock" "12:00:00") :=
    next?_respond rfl _
  have hsee : marked.prompt.find? (marked.response "show clock" "12:00:00") = some ⟨22, 29⟩ := by
    decide
  have hshift : marked.prompt.find?
      (marked.buffer.unread ++ marked.response "show clock" "12:00:00") = some ⟨26, 33⟩ := by
    decide
  refine ⟨rfl, hnext, hsee, hshift, fun limit host => ?_⟩
  have hink : Inked "show clock".toList := ⟨'s', by decide, by decide⟩
  have connected : marked.connected = true := rfl
  obtain ⟨-, hecho, -⟩ := command_undisturbed_iff connected hnext limit host
  refine (hecho [] "12:00:00\r\n".toList ⟨22, 29⟩ hink ⟨by decide, by decide⟩
    ⟨List.not_mem_nil, List.not_mem_nil⟩ ?_ hsee hshift).mpr ?_
  · decide
  · decide

/-- A device that prints a message and another prompt behind the prompt of its answer. -/
def talkative : Link Replay where
  session := (({} : Replay).reply "show platform"
    "show platform\r\n0/0 RSP ok\r\nrouter#\r\n%LOG: card up\r\nrouter#\r\n".toList).respond
      "show clock" "12:00:00 UTC"
  host := { files := { root := "/" } }

/-- The link to it when it has been asked for its cards. -/
def talkedTo : Link Replay := (Link.command "show platform" (.ofSecs 5) talkative).2

/-- Asked for its clock then, the device seems to answer with the message. -/
theorem message_is_output :
    (Link.command "show platform" (.ofSecs 5) talkative).1 = .ok "0/0 RSP ok".toList ∧
      talkedTo.session.connected = true ∧
      talkedTo.session.next? "show clock"
        = some (talkedTo.session.response "show clock" "12:00:00 UTC") ∧
      (Link.command "show clock" (.ofSecs 5) talkedTo).1 = .ok "%LOG: card up".toList ∧
      (Link.command "show clock" (.ofSecs 5) ⟨talkedTo.session.discarded, talkedTo.host⟩).1
        = .ok "12:00:00 UTC".toList :=
  ⟨rfl, rfl, rfl, rfl, rfl⟩

end Replay

end Upkeep
