import Upkeep.Proofs.Session.Recorded
import Upkeep.Convergence.Basic
import Upkeep.Session.Replay

/-! # Polls — how often a device is asked, and what it takes

    A wait for convergence has two bounds that race: a number of polls, and a
    limit that the intervals must not sum up to.  Both are known beforehand, so
    together they allow a number of polls (`allowed`).

    What the device would answer to one status command after the other is a
    sequence of its own (`answer`), whoever stops listening.  The wait goes along
    this sequence and is over at the first answer that decides, or when the
    allowed polls are used up (`Ends`).  `pollUntil_ends` is the induction; its
    invariant is that nothing before has decided and that all intervals so far
    stayed below the limit. -/

namespace Upkeep.Convergence

/-! ## How many polls are allowed -/

/-- The number of polls that both bounds allow: those numbers up to the greatest one whose
    intervals sum up to less than the limit. -/
def allowed (check : ConvergenceCheck) : Nat :=
  (List.range' 1 check.maxAttempts).countP fun k =>
    k * check.pollInterval.nanos < check.overallLimit.nanos

/-- Polls whose intervals stay below the limit are allowed, and the others are counted from
    there. -/
theorem allowed_split {check : ConvergenceCheck} {polls : Nat} (le : polls ≤ check.maxAttempts)
    (below : ∀ k, 1 ≤ k → k ≤ polls → k * check.pollInterval.nanos < check.overallLimit.nanos) :
    allowed check = polls + (List.range' (1 + polls) (check.maxAttempts - polls)).countP fun k =>
      k * check.pollInterval.nanos < check.overallLimit.nanos := by
  have hsplit : List.range' 1 check.maxAttempts
      = List.range' 1 polls ++ List.range' (1 + polls) (check.maxAttempts - polls) := by
    rw [List.range'_append_1, Nat.add_sub_cancel' le]
  have hfirst : (List.range' 1 polls).countP (fun k =>
      decide (k * check.pollInterval.nanos < check.overallLimit.nanos)) = polls := by
    have hall : ∀ k ∈ List.range' 1 polls,
        decide (k * check.pollInterval.nanos < check.overallLimit.nanos) = true := by
      intro k hk
      obtain ⟨hlow, hhigh⟩ := List.mem_range'_1.mp hk
      exact decide_eq_true (below k hlow (by omega))
    rw [List.countP_eq_length.mpr hall, List.length_range']
  rw [allowed, hsplit, List.countP_append, hfirst]

/-- If moreover there may be no poll more, or the next interval would reach the limit, then these
    polls are all that are allowed. -/
theorem allowed_eq {check : ConvergenceCheck} {polls : Nat} (le : polls ≤ check.maxAttempts)
    (below : ∀ k, 1 ≤ k → k ≤ polls → k * check.pollInterval.nanos < check.overallLimit.nanos)
    (full : polls = check.maxAttempts ∨
      check.overallLimit.nanos ≤ (polls + 1) * check.pollInterval.nanos) :
    allowed check = polls := by
  rw [allowed_split le below, List.countP_eq_zero.mpr, Nat.add_zero]
  intro k hk
  obtain ⟨hlow, hhigh⟩ := List.mem_range'_1.mp hk
  have hreach : check.overallLimit.nanos ≤ (polls + 1) * check.pollInterval.nanos := by
    rcases full with hlast | hreach
    · omega
    · exact hreach
  -- the intervals up to a later poll sum up to no less
  have hmono := Nat.mul_le_mul_right check.pollInterval.nanos (show polls + 1 ≤ k by omega)
  rw [decide_eq_true_eq, Nat.not_lt]
  exact Nat.le_trans hreach hmono

/-! ## What the device answers -/

variable {σ : Type} [Session σ]

/-- The answer to the status command of a poll. -/
def reply (check : ConvergenceCheck) (link : Link σ) : Except SessionError Text :=
  (Link.command check.statusCommand check.commandLimit
    { link with host := link.host.sleep check.pollInterval }).1

/-- The link after so many polls in a row, whatever they come to. -/
def polled (check : ConvergenceCheck) (link : Link σ) : Nat → Link σ
  | 0 => link
  | polls + 1 => (poll check (polls + 1) (polled check link polls)).2

/-- The answer to the status command of the `k`-th poll, counted from 1. -/
def answer (check : ConvergenceCheck) (link : Link σ) (k : Nat) : Except SessionError Text :=
  reply check (polled check link (k - 1))

/-- Whether an answer ends the wait: an output that the probe judges converged does, and so does
    every failure but a timeout. -/
def decides (probe : Probe) : Except SessionError Text → Bool
  | .ok output => Inventory.converged probe.accepts (probe.read output)
  | .error (.timeout _ _) => false
  | .error _ => true

/-- The `k`-th of the answers, counted from 1, is the first that ends the wait. -/
structure FirstDecided (probe : Probe) (answers : Nat → Except SessionError Text) (k : Nat) :
    Prop where
  pos : 1 ≤ k
  deciding : decides probe (answers k) = true
  first : ∀ j, 1 ≤ j → j < k → decides probe (answers j) = false

/-- No other answer that decides comes before it. -/
theorem FirstDecided.le {probe : Probe} {answers : Nat → Except SessionError Text} {j k : Nat}
    (hj : FirstDecided probe answers j) (hk : FirstDecided probe answers k) : j ≤ k := by
  refine Nat.le_of_not_lt fun hlt => ?_
  have hnot := hj.first k hk.pos hlt
  rw [hk.deciding] at hnot
  exact nomatch hnot

/-- So there is only one first one. -/
theorem FirstDecided.unique {probe : Probe} {answers : Nat → Except SessionError Text} {j k : Nat}
    (hj : FirstDecided probe answers j) (hk : FirstDecided probe answers k) : j = k :=
  Nat.le_antisymm (hj.le hk) (hk.le hj)

/-- The text that an answer leaves: the output, or the end of what came in time. -/
def textOf : Except SessionError Text → Text
  | .ok output => output
  | .error (.timeout _ tail) => tail
  | .error _ => []

/-- The text that the last of so many answers leaves, if there is one. -/
def lastOutput (answers : Nat → Except SessionError Text) (polls : Nat) : Option Text :=
  if polls = 0 then none else some (textOf (answers polls))

/-- What a poll comes to by its answer; only a failure that decides is one of the poll itself. -/
def verdict : Except SessionError Text → Except ConvergenceError (Except Text Text)
  | .ok output => .ok (.ok output)
  | .error (.timeout _ tail) => .ok (.error tail)
  | .error error => .error (.session error)

/-- The link behind the status command of a poll. -/
def asked (check : ConvergenceCheck) (link : Link σ) : Link σ :=
  (Link.command check.statusCommand check.commandLimit
    { link with host := link.host.sleep check.pollInterval }).2

/-- A poll is its status command, and a record of how that went. -/
theorem poll_eq (check : ConvergenceCheck) (attempt : Nat) (link : Link σ) :
    ∃ journal, poll check attempt link = (verdict (reply check link),
      { asked check link with host := { (asked check link).host with journal } }) := by
  simp only [poll, reply, asked, Action.bind_apply, Link.onHost, Link.attempt]
  rcases Link.command check.statusCommand check.commandLimit
    { link with host := link.host.sleep check.pollInterval } with ⟨error | output, asked⟩
  · cases error with
    | timeout waited tail => exact ⟨_, rfl⟩
    | connectionLost => exact ⟨_, rfl⟩
    | notConnected => exact ⟨_, rfl⟩
    | invalidUrl url => exact ⟨_, rfl⟩
    | io error => exact ⟨_, rfl⟩
  · exact ⟨_, rfl⟩

/-- So the poll comes to what its answer says. -/
theorem poll_result (check : ConvergenceCheck) (attempt : Nat) (link : Link σ) :
    (poll check attempt link).1 = verdict (reply check link) := by
  obtain ⟨journal, hpoll⟩ := poll_eq check attempt link
  rw [hpoll]

/-! ## How long it takes -/

/-- The time that passes in the session calls of a command. -/
def commandTime (line : String) (limit : Duration) (link : Link σ) : Duration :=
  let sent := Session.send line link.session link.host.files
  match sent.result with
  | .error _ => sent.elapsed
  | .ok () =>
    sent.elapsed +
      (Session.expect [Session.prompt sent.next] limit sent.next sent.files).elapsed

/-- A command moves the clock by the time of its calls. -/
theorem command_clock (line : String) (limit : Duration) (link : Link σ) :
    (Link.command line limit link).2.host.clock.nanos
      = link.host.clock.nanos + (commandTime line limit link).nanos := by
  simp only [Link.command, commandTime, Action.bind_apply, Link.call]
  rcases (Session.send line link.session link.host.files).result with error | _
  · rfl
  · simp only [Action.get_apply, Link.after]
    rcases (Session.expect [Session.prompt (Session.send line link.session link.host.files).next]
      limit (Session.send line link.session link.host.files).next
      (Session.send line link.session link.host.files).files).result with error | found
    · exact Nat.add_assoc _ _ _
    · exact Nat.add_assoc _ _ _

/-- The time that passes in the session calls of so many polls. -/
def pollTime (check : ConvergenceCheck) (link : Link σ) : Nat → Duration
  | 0 => .zero
  | polls + 1 => pollTime check link polls +
      commandTime check.statusCommand check.commandLimit (polled check link polls)

/-- So many polls move the clock by their intervals and the time of their calls. -/
theorem polled_clock (check : ConvergenceCheck) (link : Link σ) (polls : Nat) :
    (polled check link polls).host.clock.nanos = link.host.clock.nanos +
      polls * check.pollInterval.nanos + (pollTime check link polls).nanos := by
  induction polls with
  | zero => rw [Nat.zero_mul]; rfl
  | succ polls ih =>
      obtain ⟨journal, hpoll⟩ := poll_eq check (polls + 1) (polled check link polls)
      have hstep : (polled check link (polls + 1)).host.clock.nanos
          = (polled check link polls).host.clock.nanos + check.pollInterval.nanos +
            (commandTime check.statusCommand check.commandLimit
              (polled check link polls)).nanos := by
        rw [polled, hpoll]
        exact command_clock check.statusCommand check.commandLimit _
      rw [hstep, ih, pollTime, Duration.nanos_add, Nat.succ_mul]
      omega

/-! ## The loop -/

/-- What a wait comes to when the answer to its `k`-th poll decides. -/
def decision (k : Nat) : Except SessionError Text → Except ConvergenceError Nat
  | .ok _ => .ok k
  | .error error => .error (.session error)

/-- How the polls of a wait are over, and after how many of them: with the first answer that
    decides, or with the last poll that is allowed. -/
inductive Ends (check : ConvergenceCheck) (probe : Probe)
    (answers : Nat → Except SessionError Text) : Nat → Except ConvergenceError Nat → Prop where
  | decided {k : Nat} :
      FirstDecided probe answers k → k ≤ allowed check →
      Ends check probe answers k (decision k (answers k))
  | exhausted :
      (∀ k, 1 ≤ k → k ≤ allowed check → decides probe (answers k) = false) →
      Ends check probe answers (allowed check)
        (.error (.notConverged (allowed check) (lastOutput answers (allowed check))))

/-- An answer that decides is not among answers that do not. -/
theorem FirstDecided.lt {probe : Probe} {answers : Nat → Except SessionError Text} {k polls : Nat}
    (h : FirstDecided probe answers k)
    (undecided : ∀ j, 1 ≤ j → j ≤ polls → decides probe (answers j) = false) : polls < k := by
  refine Nat.lt_of_not_le fun hle => ?_
  have hnot := undecided k h.pos hle
  rw [h.deciding] at hnot
  exact nomatch hnot

/-- The number that a wait comes to is that of its polls. -/
theorem Ends.eq_of_ok {check : ConvergenceCheck} {probe : Probe}
    {answers : Nat → Except SessionError Text} {polls made : Nat}
    (h : Ends check probe answers polls (.ok made)) : polls = made := by
  generalize hresult : Except.ok made = result at h
  cases h with
  | decided =>
      cases hanswer : answers polls with
      | ok output =>
          rw [hanswer] at hresult
          exact (Except.ok.inj hresult).symm
      | error error =>
          rw [hanswer] at hresult
          exact nomatch hresult
  | exhausted => exact nomatch hresult

/-- The answers alone decide how many polls are made. -/
theorem Ends.unique {check : ConvergenceCheck} {probe : Probe}
    {answers : Nat → Except SessionError Text} {polls polls' : Nat}
    {result result' : Except ConvergenceError Nat} (h : Ends check probe answers polls result)
    (h' : Ends check probe answers polls' result') : polls = polls' := by
  cases h with
  | decided hfirst hle =>
      cases h' with
      | decided hfirst' _ => exact hfirst.unique hfirst'
      | exhausted hnone => exact absurd hle (Nat.not_le.mpr (hfirst.lt hnone))
  | exhausted hnone =>
      cases h' with
      | decided hfirst hle => exact absurd hle (Nat.not_le.mpr (hfirst.lt hnone))
      | exhausted => rfl

omit [Session σ] in
/-- The intervals of one poll more. -/
theorem intervals_succ (check : ConvergenceCheck) (polls : Nat) :
    (⟨polls * check.pollInterval.nanos⟩ : Duration) + check.pollInterval
      = ⟨(polls + 1) * check.pollInterval.nanos⟩ := by
  rw [Nat.succ_mul]
  rfl

/-- What holds of some polls and of the next one. -/
theorem forall_polls_succ {holds : Nat → Prop} {polls : Nat}
    (h : ∀ k, 1 ≤ k → k ≤ polls → holds k) (next : holds (polls + 1)) :
    ∀ k, 1 ≤ k → k ≤ polls + 1 → holds k := by
  intro k hpos hk
  rcases Nat.le_or_eq_of_le_succ hk with hle | rfl
  · exact h k hpos hle
  · exact next

/-- **ONE TURN**: a poll whose interval stays below the limit is made, and its answer decides
    whether the loop goes on. -/
theorem pollUntil_turn (check : ConvergenceCheck) (probe : Probe) (link : Link σ)
    (more made : Nat) (last : Option Text)
    (below : (made + 1) * check.pollInterval.nanos < check.overallLimit.nanos) :
    pollUntil check probe (more + 1) made ⟨made * check.pollInterval.nanos⟩ last
        (polled check link made)
      = if decides probe (answer check link (made + 1)) then
          (decision (made + 1) (answer check link (made + 1)), polled check link (made + 1))
        else
          pollUntil check probe more (made + 1) ⟨(made + 1) * check.pollInterval.nanos⟩
            (lastOutput (answer check link) (made + 1)) (polled check link (made + 1)) := by
  have hgoes : ¬ check.overallLimit ≤ ⟨(made + 1) * check.pollInterval.nanos⟩ :=
    fun h => Nat.not_le.mpr below (Duration.le_iff.mp h)
  have hpoll : poll check (made + 1) (polled check link made)
      = (verdict (answer check link (made + 1)), polled check link (made + 1)) :=
    Prod.ext (poll_result check (made + 1) (polled check link made)) rfl
  have hlast : lastOutput (answer check link) (made + 1)
      = some (textOf (answer check link (made + 1))) := if_neg (Nat.succ_ne_zero made)
  rw [pollUntil, intervals_succ, if_neg hgoes, Action.bind_apply, hpoll, hlast]
  rcases answer check link (made + 1) with error | output
  · cases error with
    | timeout waited tail => rfl
    | connectionLost => rfl
    | notConnected => rfl
    | invalidUrl url => rfl
    | io error => rfl
  · -- an output decides if the probe is content with it
    by_cases hdecides : decides probe (.ok output) = true
    · rw [if_pos hdecides]
      exact congrFun (if_pos hdecides) _
    · rw [if_neg hdecides]
      exact congrFun (if_neg hdecides) _

/-- **THE LOOP**: after some polls that did not decide, and whose intervals stay below the limit,
    the polls that may still be made bring the wait to its end. -/
theorem pollUntil_ends (check : ConvergenceCheck) (probe : Probe) (link : Link σ)
    (more made : Nat) (all : made + more = check.maxAttempts)
    (below : ∀ k, 1 ≤ k → k ≤ made → k * check.pollInterval.nanos < check.overallLimit.nanos)
    (undecided : ∀ k, 1 ≤ k → k ≤ made → decides probe (answer check link k) = false) :
    ∃ polls result, Ends check probe (answer check link) polls result ∧
      pollUntil check probe more made ⟨made * check.pollInterval.nanos⟩
          (lastOutput (answer check link) made) (polled check link made)
        = (result, polled check link polls) := by
  induction more generalizing made with
  | zero =>
      have hmade : allowed check = made := allowed_eq (by omega) below (Or.inl (by omega))
      subst hmade
      exact ⟨_, _, .exhausted undecided, rfl⟩
  | succ more ih =>
      by_cases hlimit : (made + 1) * check.pollInterval.nanos < check.overallLimit.nanos
      · have hbelow := forall_polls_succ below hlimit
        rw [pollUntil_turn check probe link more made _ hlimit]
        by_cases hdecides : decides probe (answer check link (made + 1)) = true
        · have hallowed : made + 1 ≤ allowed check := by
            rw [allowed_split (by omega) hbelow]
            exact Nat.le_add_right _ _
          rw [if_pos hdecides]
          refine ⟨_, _, .decided ⟨Nat.succ_pos made, hdecides, ?_⟩ hallowed, rfl⟩
          exact fun j hpos hj => undecided j hpos (Nat.le_of_lt_succ hj)
        · rw [if_neg hdecides]
          exact ih (made + 1) (by omega) hbelow
            (forall_polls_succ undecided (Bool.eq_false_iff.mpr hdecides))
      · -- the limit is looked at before the poll, so this one is not made
        have hreach := Nat.not_lt.mp hlimit
        have hmade : allowed check = made := allowed_eq (by omega) below (Or.inr hreach)
        subst hmade
        refine ⟨_, _, .exhausted undecided, ?_⟩
        rw [pollUntil, intervals_succ, if_pos (Duration.le_iff.mpr hreach)]
        rfl

end Upkeep.Convergence
