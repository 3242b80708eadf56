import Upkeep.Proofs.Pattern.Span

/-! # Consuming patterns — a match is not empty

    A pattern may match without taking a character: `a*` does where there is no
    `a`, and `$` never takes one.  Whoever takes matches from a text over and
    over, and would be through with it in the end, has to do without such
    patterns (`Consuming`).

    Whether a pattern is of this kind can be seen from its program.  A way that
    has taken nothing yet is at an address to which jumps, forks and checks alone
    lead from the beginning.  If none of these accepts (`Opens`), then whoever
    accepts has started before the present place (`Opens.consuming`). -/

namespace Upkeep

namespace Pattern

/-- The stretch is not empty. -/
def Span.Filled (span : Span) : Prop := span.first < span.last

/-- Every match of the pattern takes a character. -/
def Consuming (pattern : Pattern) : Prop :=
  ∀ text span, pattern.find? text = some span → span.Filled

/-- Whether a way ends here with a match. -/
def Instr.accepts : Instr → Bool
  | .accept => true
  | _ => false

/-- A way is at one of these addresses until it takes a character, and it cannot accept there. -/
def Opens (program : Array Instr) (opening : List Nat) : Prop :=
  0 ∈ opening ∧ ∀ address ∈ opening, ∀ instr ∈ program[address]?,
    instr.accepts = false ∧ ∀ target ∈ instr.onward address, target ∈ opening

instance (program : Array Instr) (opening : List Nat) : Decidable (Opens program opening) :=
  inferInstanceAs (Decidable (_ ∧ ∀ address ∈ opening, ∀ instr ∈ program[address]?,
    instr.accepts = false ∧ ∀ target ∈ instr.onward address, target ∈ opening))

section Search

variable {program : Array Instr} {opening : List Nat} {place : Nat}

/-- A thread has taken a character, or it is at an address where it cannot accept. -/
def Thread.Open (opening : List Nat) (place : Nat) (thread : Thread) : Prop :=
  thread.start < place ∨ thread.address ∈ opening

/-- Threads that have started before the present place do not lose by one that starts here. -/
theorem open_admit (hopens : Opens program opening) (before after : Option Char)
    {waiting : Waiting} (best : Option Span)
    (h : ∀ thread ∈ waiting.threads, thread.Open opening place) :
    ∀ thread ∈ ( waiting.admit program before after place best).threads,
      thread.Open opening place := by
  unfold Waiting.admit
  split
  · exact Waiting.forall_follow (· ∈ opening)
      (fun address haddress instr hinstr => (hopens.2 address haddress instr hinstr).2)
      (fun address haddress => Or.inr haddress) _ _ (List.forall_mem_singleton.mpr hopens.1) h
  · exact h

/-- What a step comes to is what was known before, or the match of a thread that accepts. -/
theorem step_best (program : Array Instr) (place : Nat) (c after : Option Char)
    (threads : List Thread) (next : Waiting) (best : Option Span) :
    (step program place c after threads next best).2 = best ∨
      ∃ thread ∈ threads, program[thread.address]? = some .accept ∧
        (step program place c after threads next best).2 = some ⟨thread.start, place⟩ := by
  induction threads generalizing next with
  | nil => exact Or.inl rfl
  | cons thread rest ih =>
      have hlater (next : Waiting) :
          (step program place c after rest next best).2 = best ∨
            ∃ other ∈ thread :: rest, program[other.address]? = some .accept ∧
              (step program place c after rest next best).2 = some ⟨other.start, place⟩ := by
        rcases ih next with hbest | ⟨other, hother, haccept, hfound⟩
        · exact Or.inl hbest
        · exact Or.inr ⟨other, List.mem_cons_of_mem _ hother, haccept, hfound⟩
      rw [step.eq_def]
      dsimp only
      split
      · next haccept => exact Or.inr ⟨thread, List.mem_cons_self, haccept, rfl⟩
      · split
        · split
          · exact hlater _
          · exact hlater _
        · exact hlater _
      · exact hlater _

/-- A thread that accepts has taken a character, so a match that is found is not empty. -/
theorem step_filled (hopens : Opens program opening) (c after : Option Char)
    {threads : List Thread} (next : Waiting) {best : Option Span}
    (hthreads : ∀ thread ∈ threads, thread.Open opening place)
    (hbest : ∀ span ∈ best, span.Filled) :
    ∀ span ∈ (step program place c after threads next best).2, span.Filled := by
  rcases step_best program place c after threads next best with
    hsame | ⟨thread, hthread, haccept, hfound⟩
  · rwa [hsame]
  · rw [hfound]
    rintro span ⟨⟩
    rcases hthreads thread hthread with hstarted | hopening
    · exact hstarted
    · exact nomatch (hopens.2 thread.address hopening .accept haccept).1

/-- The search from a place on finds no empty match, if all threads have started before. -/
theorem advance_filled (hopens : Opens program opening) (before : Option Char)
    {waiting : Waiting} {best : Option Span} (text : List Char)
    (hwaiting : ∀ thread ∈ waiting.threads, thread.start < place)
    (hwithin : ∀ span ∈ best, span.Within place) (hbest : ∀ span ∈ best, span.Filled) :
    ∀ span ∈ advance program before place waiting best text, span.Filled := by
  induction text generalizing before place waiting best with
  | nil =>
      have hadmitted := open_admit hopens before none best
        fun thread hthread => Or.inl (hwaiting thread hthread)
      exact step_filled hopens none none _
        (fun thread hthread => hadmitted thread (List.mem_reverse.mp hthread)) hbest
  | cons c rest ih =>
      have hadmitted := open_admit hopens before (some c) best
        fun thread hthread => Or.inl (hwaiting thread hthread)
      have hbehind := Waiting.behind_started program before (some c) best
        fun thread hthread => Nat.le_of_lt (hwaiting thread hthread)
      have hfilled := step_filled hopens (some c) rest.head? (.none program.size)
        (fun thread hthread => hadmitted thread (List.mem_reverse.mp hthread)) hbest
      obtain ⟨hnext, hfound⟩ := step_within program (some c) rest.head?
        (fun thread hthread => hbehind thread (List.mem_reverse.mp hthread))
        (Waiting.behind_none program.size place) hwithin
      simp only [advance]
      split
      · exact hfilled
      · -- whoever goes on has taken a character here
        exact ih (some c) (fun thread hthread => Nat.lt_succ_of_le (hnext thread hthread))
          (fun span hspan => (hfound span hspan).mono (Nat.le_succ place)) hfilled

end Search

/-- **CONSUMING**: a pattern is consuming if there are addresses at which its ways stay until they
    take a character and none of them accepts. -/
theorem Opens.consuming {pattern : Pattern} {opening : List Nat}
    (h : Opens pattern.code opening) : pattern.Consuming := by
  intro text span hfound
  have hthreads : ∀ thread ∈ (Waiting.none pattern.code.size).threads, thread.start < 0 :=
    fun _ hthread => nomatch hthread
  have hwithin : ∀ span ∈ (none : Option Span), span.Within 0 := fun _ hspan => nomatch hspan
  have hfilled : ∀ span ∈ (none : Option Span), span.Filled := fun _ hspan => nomatch hspan
  exact advance_filled h none text hthreads hwithin hfilled span hfound

end Pattern

end Upkeep
