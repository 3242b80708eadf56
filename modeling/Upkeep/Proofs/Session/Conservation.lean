import Upkeep.Proofs.Pattern.Span
import Upkeep.Session.Buffer

/-! # Conservation — text goes through the buffer and nowhere else

    Chunks arrive and finds take text, in any order.  What was pushed is what was
    taken, find by find, followed by what is unread: nothing is lost, nothing is
    there twice, and nothing changes its place.  One step keeps the balance
    (`Takes.conserves`), and so does a whole row of them (`turns_conserve`).

    What a find takes is settled by `Earliest`: among the leftmost matches of all
    patterns the one that starts first, and among those that start there the one
    of the first pattern.  The pass over the patterns is opened once, in
    `first_go`. -/

namespace Upkeep

namespace Buffer

/-! ## The first of all matches -/

/-- The stretch is the leftmost match of the pattern with this index, no other pattern's leftmost
    match starts before it, and of those that start with it none has a lower index. -/
structure Earliest (patterns : List Pattern) (text : Text) (index : Nat) (span : Pattern.Span) :
    Prop where
  matched : ∃ pattern, patterns[index]? = some pattern ∧ pattern.find? text = some span
  smallest : ∀ (other : Nat) (pattern : Pattern) (found : Pattern.Span),
    patterns[other]? = some pattern → pattern.find? text = some found → span.first ≤ found.first
  lowest : ∀ (other : Nat) (pattern : Pattern) (found : Pattern.Span),
    patterns[other]? = some pattern → pattern.find? text = some found →
      found.first = span.first → index ≤ other

/-- What a pass over the patterns has come to: no pattern matches, or this is the earliest
    match. -/
inductive First (patterns : List Pattern) (text : Text) : Option (Nat × Pattern.Span) → Prop where
  | unmatched : (∀ pattern ∈ patterns, pattern.find? text = none) → First patterns text none
  | matched {index : Nat} {span : Pattern.Span} :
      Earliest patterns text index span → First patterns text (some (index, span))

section Pass

variable {seen : List Pattern} {pattern : Pattern} {text : Text} {index other : Nat}
  {span found : Pattern.Span}

/-- A place among patterns and one more is a place among the patterns, or the one behind them. -/
theorem getElem?_concat_cases {another : Pattern}
    (h : (seen ++ [pattern])[other]? = some another) :
    seen[other]? = some another ∨ (other = seen.length ∧ another = pattern) := by
  by_cases hlt : other < seen.length
  · rw [List.getElem?_append_left hlt] at h
    exact Or.inl h
  · rw [List.getElem?_append_right (Nat.le_of_not_lt hlt)] at h
    obtain ⟨hlast, hpattern⟩ := List.getElem?_eq_some_iff.mp h
    rw [List.length_singleton, Nat.lt_one_iff] at hlast
    refine Or.inr ⟨by omega, ?_⟩
    rw [← hpattern]
    exact List.getElem_singleton ..

/-- A match stays the earliest if one more pattern does not match before it. -/
theorem Earliest.keep (h : Earliest seen text index span)
    (hlater : ∀ found, pattern.find? text = some found → span.first ≤ found.first) :
    Earliest (seen ++ [pattern]) text index span := by
  obtain ⟨⟨own, hown, hmatch⟩, hsmallest, hlowest⟩ := h
  obtain ⟨hlt, -⟩ := List.getElem?_eq_some_iff.mp hown
  refine ⟨⟨own, ?_, hmatch⟩, ?_, ?_⟩
  · rw [List.getElem?_append_left hlt]
    exact hown
  · intro other another found hother hfound
    rcases getElem?_concat_cases hother with hseen | ⟨rfl, rfl⟩
    · exact hsmallest other another found hseen hfound
    · exact hlater found hfound
  · intro other another found hother hfound hsame
    rcases getElem?_concat_cases hother with hseen | ⟨rfl, rfl⟩
    · exact hlowest other another found hseen hfound hsame
    · -- the new pattern is behind all others
      exact Nat.le_of_lt hlt

/-- The match of one more pattern is the earliest if it starts before all others. -/
theorem Earliest.replace (hfound : pattern.find? text = some span)
    (hbefore : ∀ (other : Nat) (another : Pattern) (found : Pattern.Span),
      seen[other]? = some another → another.find? text = some found →
        span.first < found.first) :
    Earliest (seen ++ [pattern]) text seen.length span := by
  refine ⟨⟨pattern, ?_, hfound⟩, ?_, ?_⟩
  · rw [List.getElem?_append_right (Nat.le_refl _), Nat.sub_self]
    rfl
  · intro other another found hother hmatch
    rcases getElem?_concat_cases hother with hseen | ⟨rfl, rfl⟩
    · exact Nat.le_of_lt (hbefore other another found hseen hmatch)
    · rw [hfound] at hmatch
      obtain rfl := Option.some.inj hmatch
      exact Nat.le_refl _
  · intro other another found hother hmatch hsame
    rcases getElem?_concat_cases hother with hseen | ⟨rfl, rfl⟩
    · have hlt := hbefore other another found hseen hmatch
      omega
    · exact Nat.le_refl _

/-- One step of the pass: the match of one more pattern is compared with the best one so far. -/
theorem First.concat {best : Option (Nat × Pattern.Span)} (h : First seen text best)
    (pattern : Pattern) :
    First (seen ++ [pattern]) text (match pattern.find? text with
      | some span => earlier best (seen.length, span)
      | none => best) := by
  cases hfind : pattern.find? text with
  | none =>
      dsimp only
      have hno : ∀ found, pattern.find? text ≠ some found := by
        intro found
        rw [hfind]
        exact nofun
      cases h with
      | unmatched hnone =>
          refine .unmatched ?_
          intro another hmem
          rcases List.mem_append.mp hmem with hseen | hlast
          · exact hnone another hseen
          · rw [List.mem_singleton.mp hlast]
            exact hfind
      | matched hbest => exact .matched (hbest.keep fun found hfound => absurd hfound (hno found))
  | some span =>
      dsimp only
      cases h with
      | unmatched hnone =>
          refine .matched (.replace hfind ?_)
          intro other another found hother hmatch
          rw [hnone another (List.mem_of_getElem? hother)] at hmatch
          exact nomatch hmatch
      | @matched index old hbest =>
          simp only [earlier]
          split
          · next hlt =>
            refine .matched (.replace hfind ?_)
            intro other another found hother hmatch
            exact Nat.lt_of_lt_of_le hlt (hbest.smallest other another found hother hmatch)
          · next hge =>
            refine .matched (hbest.keep ?_)
            intro found hfound
            rw [hfind] at hfound
            obtain rfl := Option.some.inj hfound
            exact Nat.le_of_not_lt hge

/-- So it is for the rest of the pass. -/
theorem first_go {best : Option (Nat × Pattern.Span)} (h : First seen text best)
    (rest : List Pattern) :
    First (seen ++ rest) text (earliest.go text seen.length best rest) := by
  induction rest generalizing seen best with
  | nil =>
      rw [List.append_nil]
      exact h
  | cons pattern rest ih =>
      have hstep := ih (h.concat pattern)
      rw [List.length_append, List.length_singleton, List.append_assoc, List.singleton_append]
        at hstep
      rw [earliest.go]
      cases hfind : pattern.find? text with
      | none =>
          rw [hfind] at hstep
          exact hstep
      | some span =>
          rw [hfind] at hstep
          exact hstep

end Pass

/-- **FIRST**: the earliest match of some patterns is what it is called, and there is none only if
    no pattern matches. -/
theorem first_earliest (patterns : List Pattern) (text : Text) :
    First patterns text (earliest patterns text) := by
  have hnone : First [] text none := .unmatched fun _ hpattern => nomatch hpattern
  exact first_go hnone patterns

/-! ## One find -/

/-- A find takes the earliest match out of a buffer: the text up to its start, its own text, and
    what is behind it stays. -/
structure Takes (patterns : List Pattern) (buffer : Buffer) (found : Match) (behind : Buffer)
    (span : Pattern.Span) : Prop where
  earliest : Earliest patterns buffer.unread found.index span
  /-- The match is a stretch of the unread text. -/
  within : span.Within buffer.unread.length
  before : found.before = buffer.unread.take span.first
  text : found.text = (buffer.unread.drop span.first).take (span.last - span.first)
  rest : behind.unread = buffer.unread.drop span.last

/-- A find either takes the earliest match, or no pattern matches and the buffer is left alone. -/
theorem find_cases (buffer : Buffer) (patterns : List Pattern) :
    (buffer.find patterns = (none, buffer) ∧
      ∀ pattern ∈ patterns, pattern.find? buffer.unread = none) ∨
    ∃ found behind span, buffer.find patterns = (some found, behind) ∧
      Takes patterns buffer found behind span := by
  have hfirst := first_earliest patterns buffer.unread
  rw [find]
  revert hfirst
  cases Buffer.earliest patterns buffer.unread with
  | none =>
      rintro ⟨hnone⟩
      exact Or.inl ⟨rfl, hnone⟩
  | some best =>
      obtain ⟨index, span⟩ := best
      rintro (_ | hearliest)
      obtain ⟨pattern, -, hmatch⟩ := hearliest.matched
      have hwithin := Pattern.find?_within hmatch
      refine Or.inr ⟨_, _, span, rfl, hearliest, hwithin, ?_, ?_, rfl⟩
      · -- the match ends behind its start, so cutting at its end first makes no difference
        show (buffer.unread.take span.last).take span.first = _
        rw [List.take_take, Nat.min_eq_left hwithin.ordered]
      · show (buffer.unread.take span.last).drop span.first = _
        rw [List.drop_take]

/-- **ONE FIND**: the text before a match, the match and the text behind it make up what was
    unread. -/
theorem Takes.conserves {patterns : List Pattern} {buffer behind : Buffer} {found : Match}
    {span : Pattern.Span} (h : Takes patterns buffer found behind span) :
    (found.before ++ found.text) ++ behind.unread = buffer.unread := by
  have hskip : buffer.unread.drop span.last
      = (buffer.unread.drop span.first).drop (span.last - span.first) := by
    rw [List.drop_drop, Nat.add_sub_cancel' h.within.ordered]
  rw [h.before, h.text, h.rest, hskip, List.append_assoc, List.take_append_drop,
    List.take_append_drop]

/-! ## Any row of calls -/

/-- A call to a buffer that does not throw its text away. -/
inductive Step where
  | push (chunk : Text)
  | find (patterns : List Pattern)

/-- What a call gives, and the buffer behind it. -/
def perform (buffer : Buffer) : Step → Option Match × Buffer
  | .push chunk => (none, buffer.push chunk)
  | .find patterns => buffer.find patterns

/-- A call that has been made, with the buffer before and behind it. -/
structure Turn where
  before : Buffer
  step : Step
  answer : Option Match
  behind : Buffer

/-- Calls one after the other. -/
def turns (buffer : Buffer) : List Step → List Turn
  | [] => []
  | step :: rest =>
    ⟨buffer, step, (buffer.perform step).1, (buffer.perform step).2⟩ ::
      turns (buffer.perform step).2 rest

/-- The buffer behind some calls. -/
def after (buffer : Buffer) (steps : List Step) : Buffer :=
  steps.foldl (fun buffer step => (buffer.perform step).2) buffer

/-- The text of a chunk that arrives. -/
def Step.pushed : Step → Text
  | .push chunk => chunk
  | .find _ => []

/-- The text that a call gives out. -/
def Turn.taken (turn : Turn) : Text :=
  match turn.answer with
  | none => []
  | some found => found.before ++ found.text

/-- What a call does. -/
inductive Turn.Lawful : Turn → Prop where
  /-- A chunk goes behind what is unread. -/
  | pushed (buffer : Buffer) (chunk : Text) :
      Lawful ⟨buffer, .push chunk, none, ⟨buffer.unread ++ chunk⟩⟩
  /-- No pattern matches, and nothing happens. -/
  | missed (buffer : Buffer) {patterns : List Pattern} :
      (∀ pattern ∈ patterns, pattern.find? buffer.unread = none) →
      Lawful ⟨buffer, .find patterns, none, buffer⟩
  /-- The earliest match is taken. -/
  | took {buffer behind : Buffer} {patterns : List Pattern} {found : Match}
      {span : Pattern.Span} :
      Takes patterns buffer found behind span →
      Lawful ⟨buffer, .find patterns, some found, behind⟩

/-- Every call does one of these. -/
theorem perform_lawful (buffer : Buffer) (step : Step) :
    Turn.Lawful ⟨buffer, step, (buffer.perform step).1, (buffer.perform step).2⟩ := by
  cases step with
  | push chunk => exact .pushed buffer chunk
  | find patterns =>
      rcases buffer.find_cases patterns with ⟨hfind, hnone⟩ | ⟨found, behind, span, hfind, htakes⟩
      · rw [perform, hfind]
        exact .missed buffer hnone
      · rw [perform, hfind]
        exact .took htakes

/-- One call keeps the balance. -/
theorem Turn.Lawful.conserves {turn : Turn} (h : turn.Lawful) :
    turn.before.unread ++ turn.step.pushed = turn.taken ++ turn.behind.unread := by
  cases h with
  | pushed => rfl
  | missed => exact List.append_nil _
  | took htakes => exact (List.append_nil _).trans htakes.conserves.symm

/-- **BALANCE**: what was unread and what is pushed is what is taken and what is unread then. -/
theorem turns_conserve (buffer : Buffer) (steps : List Step) :
    buffer.unread ++ steps.flatMap Step.pushed =
      (buffer.turns steps).flatMap Turn.taken ++ (buffer.after steps).unread := by
  induction steps generalizing buffer with
  | nil => exact List.append_nil _
  | cons step rest ih =>
      have hstep := (buffer.perform_lawful step).conserves
      rw [List.flatMap_cons, ← List.append_assoc, hstep, List.append_assoc, ih,
        ← List.append_assoc]
      rfl

/-- Every call of a row does what calls do. -/
theorem turns_lawful (buffer : Buffer) (steps : List Step) :
    ∀ turn ∈ buffer.turns steps, turn.Lawful := by
  induction steps generalizing buffer with
  | nil => exact fun _ hturn => nomatch hturn
  | cons step rest ih =>
      intro turn hturn
      rcases List.mem_cons.mp hturn with rfl | hlater
      · exact buffer.perform_lawful step
      · exact ih _ turn hlater

/-- **CONSERVATION**: whatever arrives and whatever is looked for, and in whatever order, the
    chunks that were pushed make up what the finds have taken and what is unread; a find that
    takes nothing leaves the buffer alone, and one that takes something takes the earliest
    match. -/
theorem chunks_eq_taken_and_unread (steps : List Step) :
    steps.flatMap Step.pushed =
        (turns {} steps).flatMap Turn.taken ++ (after {} steps).unread ∧
      ∀ turn ∈ turns {} steps, turn.Lawful :=
  ⟨turns_conserve {} steps, turns_lawful {} steps⟩

end Buffer

end Upkeep
