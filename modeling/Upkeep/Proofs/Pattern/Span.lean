import Upkeep.Pattern.Reader

/-! # Spans — a match lies in the text

    A search moves from place to place and takes its threads along.  A thread
    remembers where it started, and a match is reported as the stretch from there
    to the present place.  So it is enough that no thread is ahead of the search
    (`Waiting.Behind`): then a match ends where it starts or later, and not behind
    the end of the text (`search_within`). -/

namespace Upkeep

namespace Pattern

/-- Where a way goes on from an instruction before it takes a character. -/
def Instr.onward (address : Nat) : Instr → List Nat
  | .one _ => []
  | .look _ => [address + 1]
  | .jump target => [target]
  | .fork first second => [first, second]
  | .accept => []

/-- No thread has started behind a place. -/
def Waiting.Behind (waiting : Waiting) (place : Nat) : Prop :=
  ∀ thread ∈ waiting.threads, thread.start ≤ place

/-- The stretch lies in front of a place. -/
structure Span.Within (span : Span) (place : Nat) : Prop where
  ordered : span.first ≤ span.last
  last_le : span.last ≤ place

/-- What lies in front of a place lies in front of all later ones. -/
theorem Span.Within.mono {span : Span} {place later : Nat} (h : span.Within place)
    (hle : place ≤ later) : span.Within later := ⟨h.ordered, Nat.le_trans h.last_le hle⟩

namespace Waiting

variable {program : Array Instr} {before after : Option Char} {place : Nat} {waiting : Waiting}

protected theorem Behind.mono {later : Nat} (h : waiting.Behind place) (hle : place ≤ later) :
    waiting.Behind later :=
  fun thread hthread => Nat.le_trans (h thread hthread) hle

/-- At first nothing waits. -/
theorem behind_none (size place : Nat) : (none size).Behind place :=
  fun _ hthread => nomatch hthread

/-- Following the ways from some addresses adds threads with one start, at addresses to which these
    ways lead before they take a character. -/
theorem forall_follow {start : Nat} (opening : Nat → Prop) {holds : Thread → Prop}
    (hopening : ∀ address, opening address → ∀ instr ∈ program[address]?,
      ∀ target ∈ instr.onward address, opening target)
    (hstart : ∀ address, opening address → holds ⟨address, start⟩)
    (fuel : Nat) (todo : List Nat) (htodo : ∀ address ∈ todo, opening address)
    (h : ∀ thread ∈ waiting.threads, holds thread) :
    ∀ thread ∈ (follow program before after start fuel todo waiting).threads, holds thread := by
  induction fuel generalizing todo waiting with
  | zero => exact h
  | succ fuel ih =>
      cases todo with
      | nil => exact h
      | cons address todo =>
          obtain ⟨haddress, hrest⟩ := List.forall_mem_cons.mp htodo
          have honward := hopening address haddress
          simp only [follow]
          split
          · exact ih todo hrest h
          · have hmarked (reached : Array Bool) :
                ∀ thread ∈ ({ waiting with reached } : Waiting).threads, holds thread := h
            split
            · next target hinstr =>
              refine ih _ (List.forall_mem_cons.mpr ⟨?_, hrest⟩) (hmarked _)
              exact honward _ hinstr target List.mem_cons_self
            · next first second hinstr =>
              refine ih _ (List.forall_mem_cons.mpr ⟨?_, List.forall_mem_cons.mpr ⟨?_, hrest⟩⟩)
                (hmarked _)
              · exact honward _ hinstr first List.mem_cons_self
              · exact honward _ hinstr second (List.mem_cons_of_mem _ List.mem_cons_self)
            · next look hinstr =>
              split
              · refine ih _ (List.forall_mem_cons.mpr ⟨?_, hrest⟩) (hmarked _)
                exact honward _ hinstr _ List.mem_cons_self
              · exact ih _ hrest (hmarked _)
            · -- the way waits here, and this is the one place where a thread is added
              exact ih _ hrest (List.forall_mem_cons.mpr ⟨hstart address haddress, h⟩)

/-- A thread that goes on keeps its start. -/
theorem behind_add {thread : Thread} (h : waiting.Behind place) (hstart : thread.start ≤ place) :
    (waiting.add program before after thread).Behind place := by
  exact forall_follow (fun _ => True) (fun _ _ _ _ _ _ => trivial) (fun _ _ => hstart) _ _
    (fun _ _ => trivial) h

/-- A thread that starts here is not ahead either. -/
theorem behind_started (program : Array Instr) (before after : Option Char) (best : Option Span)
    (h : waiting.Behind place) : ( waiting.admit program before after place best).Behind place := by
  unfold Waiting.admit
  split
  · exact behind_add h (Nat.le_refl place)
  · exact h

end Waiting

variable (program : Array Instr) {place : Nat}

/-- One step of the threads: those that go on are not ahead, and a match that is reported ends
    here. -/
theorem step_within (c after : Option Char) {threads : List Thread} {next : Waiting}
    {best : Option Span} (hthreads : ∀ thread ∈ threads, thread.start ≤ place)
    (hnext : next.Behind place) (hbest : ∀ span ∈ best, span.Within place) :
    (step program place c after threads next best).1.Behind place ∧
      ∀ span ∈ (step program place c after threads next best).2, span.Within place := by
  induction threads generalizing next with
  | nil => exact ⟨hnext, hbest⟩
  | cons thread rest ih =>
      have hstart := hthreads thread List.mem_cons_self
      have hrest : ∀ other ∈ rest, other.start ≤ place :=
        fun other hother => hthreads other (List.mem_cons_of_mem _ hother)
      cases hinstr : program[thread.address]? with
      | none =>
          simp only [step, hinstr]
          exact ih hrest hnext
      | some instr =>
          cases instr with
          | accept =>
              simp only [step, hinstr]
              refine ⟨hnext, ?_⟩
              intro span hspan
              obtain rfl := Option.some.inj hspan
              exact ⟨hstart, Nat.le_refl place⟩
          | one set =>
              cases c with
              | none =>
                  simp only [step, hinstr]
                  exact ih hrest hnext
              | some c =>
                  simp only [step, hinstr]
                  split
                  · exact ih hrest (Waiting.behind_add hnext hstart)
                  · exact ih hrest hnext
          | look look =>
              simp only [step, hinstr]
              exact ih hrest hnext
          | jump target =>
              simp only [step, hinstr]
              exact ih hrest hnext
          | fork first second =>
              simp only [step, hinstr]
              exact ih hrest hnext

/-- The search from a place on reports a stretch of the text up to its end. -/
theorem advance_within (before : Option Char) {waiting : Waiting} {best : Option Span}
    (text : List Char) (hwaiting : waiting.Behind place)
    (hbest : ∀ span ∈ best, span.Within place) :
    ∀ span ∈ advance program before place waiting best text,
      span.Within (place + text.length) := by
  induction text generalizing before place waiting best with
  | nil =>
      have hstarted := Waiting.behind_started program before none best hwaiting
      exact (step_within program none none
        (fun thread hthread => hstarted thread (List.mem_reverse.mp hthread))
        (Waiting.behind_none _ place) hbest).2
  | cons c rest ih =>
      have hstarted := Waiting.behind_started program before (some c) best hwaiting
      obtain ⟨hnext, hfound⟩ := step_within program (some c) rest.head?
        (fun thread hthread => hstarted thread (List.mem_reverse.mp hthread))
        (Waiting.behind_none program.size place) hbest
      simp only [advance]
      split
      · exact fun span hspan => (hfound span hspan).mono (Nat.le_add_right _ _)
      · -- the threads have taken a character, so the search is one place further
        intro span hspan
        have hlater := ih (some c) (hnext.mono (Nat.le_succ place))
          (fun span hspan => (hfound span hspan).mono (Nat.le_succ place)) span hspan
        rw [List.length_cons, Nat.add_comm rest.length 1, ← Nat.add_assoc]
        exact hlater

/-- **WITHIN**: whatever the program, a match is a stretch of the text. -/
theorem search_within (program : Array Instr) (text : List Char) :
    ∀ span ∈ search program text, span.Within text.length := by
  have hnone : ∀ span ∈ (none : Option Span), span.Within 0 := fun _ hspan => nomatch hspan
  have h := advance_within program none text (Waiting.behind_none program.size 0) hnone
  rwa [Nat.zero_add] at h

end Pattern

/-- So what a pattern finds is a stretch of the text. -/
theorem Pattern.find?_within {pattern : Pattern} {text : List Char} {span : Pattern.Span}
    (h : pattern.find? text = some span) : span.Within text.length :=
  Pattern.search_within pattern.code text span h

end Upkeep
