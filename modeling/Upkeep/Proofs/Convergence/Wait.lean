import Upkeep.Proofs.Convergence.Polls
import Upkeep.Session.Replay

/-! # Waits — from dropping the session to the last poll

    A wait drops the session, makes it anew, and polls.  If the first two go
    well, everything else is said by the answers to the polls: how many of them
    are made, what the wait comes to, and how long it took (`Awaited`).

    The number of polls is that of the status commands on the record.  Recording
    a wait changes nothing else (`await_erases`), so the recorded wait and the
    bare one have the same answers, and the answers decide the number. -/

namespace Upkeep.Convergence

variable {σ : Type} [Session σ]

/-! ## Recording -/

theorem restart_erases (check : ConvergenceCheck) :
    Erases (σ := σ) (restart check) (restart check) :=
  .bind (.mapError _ .disconnect) fun _ => .bind (.onHost _) fun _ => .bind (.onHost _) fun _ =>
    .bind (.mapError _ (.reconnect true)) fun _ => .bind (.onHost _) fun _ =>
      .bind (.onHost _) fun _ => .onHost _

theorem poll_erases (check : ConvergenceCheck) (attempt : Nat) :
    Erases (σ := σ) (poll check attempt) (poll check attempt) := by
  refine .bind (.onHost _) fun _ => .bind (.attempt (.command _ _)) fun answer => ?_
  rcases answer with error | output
  · cases error with
    | timeout waited tail => exact .bind (.onHost _) fun _ => .pure _
    | connectionLost => exact .throw _
    | notConnected => exact .throw _
    | invalidUrl url => exact .throw _
    | io error => exact .throw _
  · exact .bind (.onHost _) fun _ => .pure _

theorem pollUntil_erases (check : ConvergenceCheck) (probe : Probe) (more made : Nat)
    (waited : Duration) (last : Option Text) :
    Erases (σ := σ) (pollUntil check probe more made waited last)
      (pollUntil check probe more made waited last) := by
  induction more generalizing made waited last with
  | zero => exact .throw _
  | succ more ih =>
      rw [pollUntil, pollUntil]
      split
      · exact .throw _
      · refine .bind (poll_erases check _) fun answer => ?_
        rcases answer with tail | output
        · exact ih _ _ _
        · dsimp only
          split
          · exact .pure _
          · exact ih _ _ _

/-- **RECORDING**: a recorded wait is the wait. -/
theorem await_erases (check : ConvergenceCheck) (probe : Probe) :
    Erases (σ := σ) (await check probe) (await check probe) :=
  .get fun _ => .bind (restart_erases check) fun _ =>
    .bind (pollUntil_erases check probe _ _ _ _) fun _ => .get fun _ =>
      .bind (.onHost _) fun _ => .bind (.onHost _) fun _ => .pure _

/-! ## Restarting the session -/

/-- What dropping the session comes to. -/
def dropped (link : Link σ) : Outcome σ Unit :=
  Session.disconnect link.session link.host.files

/-- What making the session anew comes to, when it has been dropped. -/
def renewed (link : Link σ) : Outcome σ Unit :=
  Session.reconnect true (dropped link).next (dropped link).files

/-- The link when the session has been made anew and has settled. -/
def restarted (check : ConvergenceCheck) (link : Link σ) : Link σ := (restart check link).2

omit [Session σ] in
/-- A call that succeeds leaves the link behind it. -/
theorem mapError_call {ε α : Type} {f : σ → Files → Outcome σ α} {wrap : SessionError → ε}
    {link : Link σ} {a : α} (h : (f link.session link.host.files).result = .ok a) :
    Link.mapError wrap (Link.call f) link
      = (.ok a, link.after (f link.session link.host.files)) := by
  simp only [Link.mapError, Link.call, h]

/-- If the session can be dropped and made anew, the restart succeeds, and the clock moves by its
    two pauses and the time of the two calls. -/
theorem restart_ok (check : ConvergenceCheck) {link : Link σ}
    (gone : (dropped link).result = .ok ()) (back : (renewed link).result = .ok ()) :
    restart check link = (.ok (), restarted check link) ∧
      (restarted check link).host.clock.nanos = link.host.clock.nanos +
        (dropped link).elapsed.nanos + check.warmup.nanos + (renewed link).elapsed.nanos +
        check.settle.nanos := by
  let away := link.after (dropped link)
  let paused : Link σ :=
    { away with host := ((away.host.postStatus "Waiting for device boot to reconnect").log .info
        "Waiting for device boot to reconnect").sleep check.warmup }
  have haway : Link.mapError ConvergenceError.session (Link.call Session.disconnect) link
      = (.ok (), away) := mapError_call gone
  -- the pause leaves session and files alone, so this is the call that is known to succeed
  have hback : Link.mapError ConvergenceError.session (Link.call (Session.reconnect true)) paused
      = (.ok (), paused.after (renewed link)) := mapError_call back
  have hrestart : restart check link = (.ok (), restarted check link) ∧
      (restarted check link).host.clock
        = (paused.after (renewed link)).host.clock + check.settle := by
    simp only [restarted, restart, Action.bind_apply, haway, announce, Link.onHost]
    simp only [away, paused] at hback
    rw [hback]
    exact ⟨rfl, rfl⟩
  refine ⟨hrestart.1, ?_⟩
  rw [hrestart.2]
  rfl

/-! ## What a wait comes to -/

/-- The time that passes in the session calls of a wait with so many polls. -/
def callTime (check : ConvergenceCheck) (link : Link σ) (polls : Nat) : Duration :=
  (dropped link).elapsed + (renewed link).elapsed + pollTime check (restarted check link) polls

/-- How long a wait with so many polls takes: its pauses, its intervals and its session calls. -/
def waitTime (check : ConvergenceCheck) (link : Link σ) (polls : Nat) : Duration :=
  ⟨check.warmup.nanos + check.settle.nanos + polls * check.pollInterval.nanos +
    (callTime check link polls).nanos⟩

/-- The result of a wait whose polls came to something. -/
def reported (check : ConvergenceCheck) (link : Link σ) :
    Except ConvergenceError Nat → Except ConvergenceError ConvergenceReport :=
  Except.map fun polls => ⟨waitTime check link polls, polls⟩

/-- A wait that gets its session back is its polls, and the account of the time. -/
theorem await_ends (check : ConvergenceCheck) (probe : Probe) (link : Link σ)
    (gone : (dropped link).result = .ok ()) (back : (renewed link).result = .ok ()) :
    ∃ polls result, Ends check probe (answer check (restarted check link)) polls result ∧
      (await check probe link).1 = reported check link result ∧
      (await check probe link).2.session = (polled check (restarted check link) polls).session := by
  obtain ⟨hrestart, hclock⟩ := restart_ok check gone back
  obtain ⟨polls, result, hends, hpolls⟩ := pollUntil_ends check probe (restarted check link)
    check.maxAttempts 0 (Nat.zero_add _) (fun k hpos hk => absurd hk (by omega))
    (fun k hpos hk => absurd hk (by omega))
  have hstart : (⟨0 * check.pollInterval.nanos⟩ : Duration) = .zero := by
    rw [Nat.zero_mul]
    rfl
  rw [hstart] at hpolls
  have hpolls' : pollUntil check probe check.maxAttempts 0 .zero none (restarted check link)
      = (result, polled check (restarted check link) polls) := hpolls
  refine ⟨polls, result, hends, ?_⟩
  simp only [await, Action.bind_apply, Action.get_apply, hrestart, hpolls']
  cases result with
  | error error => exact ⟨rfl, rfl⟩
  | ok made =>
      obtain rfl := hends.eq_of_ok
      refine ⟨?_, rfl⟩
      -- the clock has been moved by the pauses, the intervals and the calls, and by nothing else
      have htime : (polled check (restarted check link) polls).host.clock.nanos
          - link.host.clock.nanos = (waitTime check link polls).nanos := by
        rw [polled_clock, hclock, waitTime, callTime]
        simp only [Duration.nanos_add]
        omega
      dsimp only
      rw [htime]
      rfl

/-! ## Which polls are on the record -/

/-- A poll sends the status command and no other line. If it comes to an output, the last thing
    it has done is to find the prompt behind this output. -/
theorem poll_emits (check : ConvergenceCheck) (attempt : Nat) :
    Emits (poll (σ := Recorded σ) check attempt) (fun calls result =>
      calls.filterMap Call.line? = [check.statusCommand] ∧
      ∀ output, result = .ok (.ok output) → ∃ prompt found,
        calls.getLast? = some (.expect [prompt] check.commandLimit (.ok found)) ∧
        output = stripEcho check.statusCommand.toList found.before) := by
  refine Emits.afterHost _ (Emits.bind (.attempt (.command _ _)) ?_ ?_)
  · rintro calls error ⟨answer, hresult, -⟩
    exact nomatch hresult
  · rintro calls answer ⟨_, hresult, hcalls⟩
    obtain rfl := Except.ok.inj hresult
    have hline : calls.filterMap Call.line? = [check.statusCommand] := by
      rcases hcalls with ⟨error, rfl, -⟩ | ⟨prompt, answer, rfl, -⟩
      · rfl
      · rfl
    rcases answer with error | output
    · have hthrow (error : ConvergenceError) :
          Emits (throw error : LinkM ConvergenceError (Recorded σ) (Except Text Text))
            (fun more result => (calls ++ more).filterMap Call.line? = [check.statusCommand] ∧
              ∀ output, result = .ok (.ok output) → ∃ prompt found,
                (calls ++ more).getLast?
                  = some (.expect [prompt] check.commandLimit (.ok found)) ∧
                output = stripEcho check.statusCommand.toList found.before) :=
        Emits.throw ⟨by rwa [List.append_nil], fun _ h => nomatch h⟩
      cases error with
      | timeout waited tail =>
          exact Emits.afterHost _
            (Emits.pure ⟨by rwa [List.append_nil], fun _ h => nomatch Except.ok.inj h⟩)
      | connectionLost => exact hthrow _
      | notConnected => exact hthrow _
      | invalidUrl url => exact hthrow _
      | io error => exact hthrow _
    · refine Emits.afterHost _ (Emits.pure ⟨by rwa [List.append_nil], ?_⟩)
      intro other hother
      obtain rfl := Except.ok.inj (Except.ok.inj hother)
      rcases hcalls with ⟨error, -, herror⟩ | ⟨prompt, answer, rfl, hanswer⟩
      · exact nomatch herror
      · cases answer with
        | error why => exact nomatch hanswer
        | ok found => exact ⟨prompt, found, rfl, Except.ok.inj hanswer⟩

/-- Over a recorded session, so many polls are so many status commands. -/
theorem lines_polled (check : ConvergenceCheck) (link : Link (Recorded σ)) (polls : Nat) :
    (polled check link polls).session.calls.filterMap Call.line?
      = link.session.calls.filterMap Call.line? ++
        List.replicate polls check.statusCommand := by
  induction polls with
  | zero => exact (List.append_nil _).symm
  | succ polls ih =>
      obtain ⟨calls, hcalls, hline, -⟩ :=
        poll_emits check (polls + 1) (polled check link polls)
      rw [polled, hcalls, List.filterMap_append, ih, hline, List.append_assoc,
        ← List.replicate_succ']

/-- A restart sends no line. -/
theorem restart_emits (check : ConvergenceCheck) :
    Emits (restart (σ := Recorded σ) check) (fun calls _ => calls.filterMap Call.line? = []) := by
  refine Emits.bind (.mapError _ .disconnect) ?_ ?_
  · rintro calls error ⟨answer, -, rfl⟩
    rfl
  · rintro calls ⟨⟩ ⟨answer, -, rfl⟩
    refine Emits.afterHost _ (Emits.afterHost _ (Emits.bind (.mapError _ (.reconnect true)) ?_ ?_))
    · rintro calls error ⟨answer, -, rfl⟩
      rfl
    · rintro calls ⟨⟩ ⟨answer, -, rfl⟩
      exact Emits.afterHost _ (Emits.afterHost _ (Emits.silent (fun _ => rfl) (fun _ => rfl)))

/-- The last call has found an output that the probe judges converged. -/
def Confirms (check : ConvergenceCheck) (probe : Probe) (calls : List Call) : Prop :=
  ∃ prompt found, calls.getLast? = some (.expect [prompt] check.commandLimit (.ok found)) ∧
    Inventory.converged probe.accepts
      (probe.read (stripEcho check.statusCommand.toList found.before)) = true

/-- It still is the last one behind other calls. -/
theorem Confirms.behind {check : ConvergenceCheck} {probe : Probe} {more : List Call}
    (h : Confirms check probe more) (calls : List Call) :
    Confirms check probe (calls ++ more) := by
  obtain ⟨prompt, found, hlast, hconverged⟩ := h
  refine ⟨prompt, found, ?_, hconverged⟩
  rw [List.getLast?_append, hlast]
  rfl

/-- The polls that may still be made are so many status commands at most, and they succeed only
    with an output that is converged. -/
theorem pollUntil_emits (check : ConvergenceCheck) (probe : Probe) (left attempts : Nat)
    (waited : Duration) (last : Option Text) :
    Emits (pollUntil (σ := Recorded σ) check probe left attempts waited last)
      (fun calls result => ∃ polls, polls ≤ left ∧
        calls.filterMap Call.line? = List.replicate polls check.statusCommand ∧
        ∀ made, result = .ok made → Confirms check probe calls) := by
  induction left generalizing attempts waited last with
  | zero => exact Emits.throw ⟨0, Nat.le_refl 0, rfl, fun _ h => by cases h⟩
  | succ left ih =>
      rw [pollUntil]
      split
      · exact Emits.throw ⟨0, Nat.zero_le _, rfl, fun _ h => by cases h⟩
      · have hmore (calls : List Call) (text : Text)
            (hline : calls.filterMap Call.line? = [check.statusCommand]) :
            Emits (pollUntil (σ := Recorded σ) check probe left (attempts + 1)
              (waited + check.pollInterval) (some text)) (fun more result =>
                ∃ polls, polls ≤ left + 1 ∧ (calls ++ more).filterMap Call.line?
                  = List.replicate polls check.statusCommand ∧
                ∀ made, result = .ok made → Confirms check probe (calls ++ more)) := by
          refine (ih (attempts + 1) (waited + check.pollInterval) (some text)).weaken ?_
          rintro more result ⟨polls, hle, hlines, hconfirms⟩
          refine ⟨polls + 1, Nat.succ_le_succ hle, ?_, fun made hmade => ?_⟩
          · rw [List.filterMap_append, hline, hlines]
            rfl
          · exact (hconfirms made hmade).behind calls
        refine Emits.bind (poll_emits check (attempts + 1)) ?_ ?_
        · rintro calls error ⟨hline, -⟩
          exact ⟨1, Nat.le_add_left 1 left, hline, fun _ h => by cases h⟩
        · rintro calls reading ⟨hline, hfound⟩
          cases reading with
          | error tail => exact hmore calls tail hline
          | ok output =>
              dsimp only
              split
              · next hconverged =>
                obtain ⟨prompt, found, hlast, rfl⟩ := hfound output rfl
                refine Emits.pure ⟨1, Nat.le_add_left 1 left, ?_, fun _ _ => ?_⟩
                · rwa [List.append_nil]
                · rw [List.append_nil]
                  exact ⟨prompt, found, hlast, hconverged⟩
              · exact hmore calls output hline

/-- **ON RECORD**: a wait sends nothing but the status command, as often as there may be polls at
    most, and it succeeds only with an output that is converged. -/
theorem await_emits (check : ConvergenceCheck) (probe : Probe) :
    Emits (await (σ := Recorded σ) check probe) (fun calls result =>
      ∃ polls, polls ≤ check.maxAttempts ∧
        calls.filterMap Call.line? = List.replicate polls check.statusCommand ∧
        ∀ report, result = .ok report → Confirms check probe calls) := by
  refine Emits.get fun link => Emits.bind (restart_emits check) ?_ ?_
  · rintro calls error hsilent
    exact ⟨0, Nat.zero_le _, hsilent, fun _ h => nomatch h⟩
  · rintro calls ⟨⟩ hsilent
    refine Emits.bind (pollUntil_emits check probe check.maxAttempts 0 .zero none) ?_ ?_
    · rintro more error ⟨polls, hle, hlines, -⟩
      refine ⟨polls, hle, ?_, fun _ h => nomatch h⟩
      rw [List.filterMap_append, hsilent, hlines]
      rfl
    · rintro more made ⟨polls, hle, hlines, hconfirms⟩
      refine Emits.get fun link => Emits.afterHost _ (Emits.afterHost _ (Emits.pure ?_))
      rw [List.append_nil]
      refine ⟨polls, hle, ?_, fun _ _ => (hconfirms made rfl).behind calls⟩
      rw [List.filterMap_append, hsilent, hlines]
      rfl

/-- Recorded polls lead to the same link. -/
theorem polled_erased (check : ConvergenceCheck) (link : Link (Recorded σ)) (polls : Nat) :
    (polled check link polls).erased = polled check link.erased polls := by
  induction polls with
  | zero => rfl
  | succ polls ih =>
      rw [polled, polled, ← ih, poll_erases check (polls + 1) (polled check link polls)]

/-- Recorded polls have the same answers. -/
theorem answer_erased (check : ConvergenceCheck) (link : Link (Recorded σ)) :
    answer check link = answer check link.erased := by
  funext k
  have hcommand := Erases.command check.statusCommand check.commandLimit
    { polled check link (k - 1) with
      host := (polled check link (k - 1)).host.sleep check.pollInterval }
  rw [answer, answer, ← polled_erased]
  exact (congrArg Prod.fst hcommand).symm

/-! ## Whole waits -/

/-- What a wait comes to that makes so many polls, told by the answers to them. -/
structure Awaited (check : ConvergenceCheck) (probe : Probe) (link : Link σ)
    (answers : Nat → Except SessionError Text) (polls : Nat)
    (result : Except ConvergenceError ConvergenceReport) : Prop where
  /-- Polls are made up to the first answer that decides, as far as they are allowed. -/
  decided : ∀ k, FirstDecided probe answers k → polls = min k (allowed check)
  undecided : (∀ k, ¬ FirstDecided probe answers k) → polls = allowed check
  /-- If that answer is an output, it is converged, and the wait tells how long it took. -/
  converged : ∀ k output, FirstDecided probe answers k → k ≤ allowed check →
    answers k = .ok output → result = .ok ⟨waitTime check link k, k⟩
  /-- If it is a failure, the wait fails with it. -/
  failed : ∀ k error, FirstDecided probe answers k → k ≤ allowed check →
    answers k = .error error → result = .error (.session error)
  /-- If no poll that is allowed decides, the wait tells what the last one has left. -/
  exhausted : (∀ k, FirstDecided probe answers k → allowed check < k) →
    result = .error (.notConverged (allowed check) (lastOutput answers (allowed check)))

/-- **READING OFF**: how the polls end says what the wait comes to. -/
theorem Ends.awaited {check : ConvergenceCheck} {probe : Probe} {link : Link σ}
    {answers : Nat → Except SessionError Text} {polls : Nat}
    {result : Except ConvergenceError Nat} (h : Ends check probe answers polls result) :
    Awaited check probe link answers polls (reported check link result) := by
  cases h with
  | decided hfirst hle =>
      refine ⟨?_, ?_, ?_, ?_, ?_⟩
      · intro k hk
        rw [← hfirst.unique hk, Nat.min_eq_left hle]
      · exact fun hnone => absurd hfirst (hnone _)
      · intro k output hk _ hanswer
        rw [hfirst.unique hk, hanswer]
        rfl
      · intro k error hk _ hanswer
        rw [hfirst.unique hk, hanswer]
        rfl
      · exact fun hnone => absurd hle (Nat.not_le.mpr (hnone _ hfirst))
  | exhausted hnone =>
      refine ⟨?_, fun _ => rfl, ?_, ?_, fun _ => rfl⟩
      · intro k hk
        rw [Nat.min_eq_right (Nat.le_of_lt (hk.lt hnone))]
      · exact fun k output hk hle => absurd hle (Nat.not_le.mpr (hk.lt hnone))
      · exact fun k error hk hle => absurd hle (Nat.not_le.mpr (hk.lt hnone))

/-- An inventory without nodes does not end a wait, and neither does a poll that times out. -/
theorem decides_empty {probe : Probe} {output : Text} (h : probe.read output = []) :
    decides probe (.ok output) = false := by
  rw [decides, h]
  rfl

/-- **WAIT**: a wait that can drop its session and make it anew issues the status command up to
    the first answer that decides, and as often as both bounds allow at most; its result is told
    by that answer, or by the last one. -/
theorem await_polls (check : ConvergenceCheck) (probe : Probe) (link : Link σ)
    (gone : (dropped link).result = .ok ()) (back : (renewed link).result = .ok ()) :
    (∃ (recorded : Link (Recorded σ)) (polls : Nat),
      await check probe link.recording = ((await check probe link).1, recorded) ∧
      recorded.erased = (await check probe link).2 ∧
      recorded.session.calls.filterMap Call.line? = List.replicate polls check.statusCommand ∧
      Awaited check probe link (answer check (restarted check link)) polls
        (await check probe link).1) ∧
    (∀ waited tail, decides probe (.error (.timeout waited tail)) = false) ∧
    ∀ output, probe.read output = [] → decides probe (.ok output) = false := by
  refine ⟨?_, fun _ _ => rfl, fun _ => decides_empty⟩
  have herased := await_erases check probe link.recording
  rw [Link.erased_recording] at herased
  obtain ⟨polls, result, hends, hresult, -⟩ := await_ends check probe link gone back
  obtain ⟨polls', result', hends', -, hsession⟩ :=
    await_ends check probe link.recording gone back
  have hrestarted : (restarted check link.recording).erased = restarted check link := by
    have hrestart := restart_erases check link.recording
    rw [Link.erased_recording] at hrestart
    rw [restarted, restarted, hrestart]
  -- both waits have the same answers, so they make the same number of polls
  rw [answer_erased, hrestarted] at hends'
  obtain rfl := hends.unique hends'
  obtain ⟨calls, hcalls, hsilent⟩ := restart_emits check link.recording
  refine ⟨(await check probe link.recording).2, polls, ?_, ?_, ?_, ?_⟩
  · rw [herased]
    rfl
  · rw [herased]
  · rw [hsession, lines_polled, restarted, hcalls, List.filterMap_append, hsilent]
    rfl
  · rw [hresult]
    exact hends.awaited

/-- A check whose limit allows four polls: with the fifth, the intervals would reach it. -/
def hasty : ConvergenceCheck where
  warmup := .ofSecs 60
  settle := .ofSecs 5
  pollInterval := .ofSecs 10
  maxAttempts := 100
  overallLimit := .ofSecs 50
  statusCommand := "show nodes"

/-- A probe for a device of one node, which is up if the device says so. -/
def oneNode : Probe where
  read text := if text = [] then [] else [("R0", ⟨"", String.ofList text⟩)]
  accepts node := node.state = "up"

/-- A device that leaves a poll unanswered, is down at the next one, and up from then on. -/
def booting : Link Replay where
  session := ((({ prompt := .ofText "#" } : Replay).reply "show nodes" "late".toList).reply
    "show nodes" "down#".toList).reply "show nodes" "up#".toList
  host := { files := { root := "/" } }

/-- The device is waited for through three of the four polls, one of them in vain. -/
theorem await_booting :
    (dropped booting).result = .ok () ∧ (renewed booting).result = .ok () ∧ allowed hasty = 4 ∧
      ∃ (recorded : Link (Recorded Replay)) (polls : Nat),
        recorded.session.calls.filterMap Call.line? = List.replicate polls "show nodes" ∧
        Awaited hasty oneNode booting (answer hasty (restarted hasty booting)) polls
          (.ok ⟨.ofSecs 95, 3⟩) := by
  have hresult : (await hasty oneNode booting).1 = .ok ⟨.ofSecs 95, 3⟩ := rfl
  obtain ⟨⟨recorded, polls, -, -, hlines, hawaited⟩, -⟩ :=
    await_polls hasty oneNode booting rfl rfl
  rw [hresult] at hawaited
  exact ⟨rfl, rfl, by decide, recorded, polls, hlines, hawaited⟩

end Upkeep.Convergence
