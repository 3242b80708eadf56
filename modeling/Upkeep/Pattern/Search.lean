import Upkeep.Pattern.Program

/-!
# Search — the leftmost match of a program, by preference

All ways to match advance in lockstep, one character at a time, in order of preference. A way is
a thread: the address it waits at and the place it started from. An address reached a second
time at the same place is dropped, since the earlier thread is preferred. The first thread that
accepts fixes the start and silences the less preferred ones; the others run on and may replace
its end. So a match starts as early as any match can, and among those with that start it is the
preferred one.
-/

namespace Upkeep.Pattern

/-- A way to match: the address it waits at and the place it started from. -/
structure Thread where
  address : Nat
  start : Nat

/-- The threads waiting at one place, most preferred last, and the addresses they have reached. -/
structure Waiting where
  threads : List Thread
  reached : Array Bool

/-- Nothing waits. -/
def Waiting.none (size : Nat) : Waiting := ⟨[], Array.replicate size false⟩

/-- Follows jumps, forks and checks from the addresses to do, preferred ones first, until every
way waits for a character or accepts. Each step marks an address or drops one that is marked, so
the fuel of `Waiting.add` covers every case. -/
def Waiting.follow (program : Array Instr) (before after : Option Char) (start : Nat) :
    Nat → List Nat → Waiting → Waiting
  | 0, _, waiting => waiting
  | _ + 1, [], waiting => waiting
  | fuel + 1, address :: todo, waiting =>
    if waiting.reached.getD address true then
      follow program before after start fuel todo waiting
    else
      let marked := { waiting with reached := waiting.reached.setIfInBounds address true }
      match program[address]? with
      | some (.jump target) => follow program before after start fuel (target :: todo) marked
      | some (.fork first second) =>
        follow program before after start fuel (first :: second :: todo) marked
      | some (.look look) =>
        if look.holds before after then
          follow program before after start fuel ((address + 1) :: todo) marked
        else follow program before after start fuel todo marked
      | _ =>
        follow program before after start fuel todo
          { marked with threads := ⟨address, start⟩ :: marked.threads }

/-- Adds a way that goes on at an address, less preferred than all that wait already. -/
def Waiting.add (program : Array Instr) (before after : Option Char) (waiting : Waiting)
    (thread : Thread) : Waiting :=
  waiting.follow program before after thread.start (3 * program.size + 2) [thread.address]

/-- A stretch of the text: the places before its first and behind its last character. -/
structure Span where
  first : Nat
  last : Nat
  deriving DecidableEq, Repr

/-- Lets the threads, preferred ones first, take the character `c` that stands behind `place`. An
accepting thread ends a match here and silences the rest. -/
def step (program : Array Instr) (place : Nat) (c after : Option Char) :
    List Thread → Waiting → Option Span → Waiting × Option Span
  | [], next, best => (next, best)
  | thread :: rest, next, best =>
    match program[thread.address]? with
    | some .accept => (next, some ⟨thread.start, place⟩)
    | some (.one set) =>
      match c with
      | some c =>
        if set.holds c then
          step program place (some c) after rest
            (next.add program (some c) after ⟨thread.address + 1, thread.start⟩) best
        else step program place (some c) after rest next best
      | none => step program place none after rest next best
    | _ => step program place c after rest next best

/-- While no match is known a new thread starts at every place, less preferred than the older
ones. -/
def Waiting.admit (program : Array Instr) (before after : Option Char) (place : Nat)
    (waiting : Waiting) (best : Option Span) : Waiting :=
  if best.isNone then waiting.add program before after ⟨0, place⟩ else waiting

/-- Advances all threads over the text that is left, until it ends or a match is known and no
preferred thread is left to change it. -/
def advance (program : Array Instr) (before : Option Char) (place : Nat) (waiting : Waiting)
    (best : Option Span) : List Char → Option Span
  | [] =>
    let waiting := waiting.admit program before none place best
    (step program place none none waiting.threads.reverse (.none program.size) best).2
  | c :: rest =>
    let waiting := waiting.admit program before (some c) place best
    let (next, best) := step program place (some c) rest.head? waiting.threads.reverse
      (.none program.size) best
    if next.threads.isEmpty && best.isSome then best
    else advance program (some c) (place + 1) next best rest

/-- The leftmost match of the program in the text, preferred among those that start there. -/
def search (program : Array Instr) (text : List Char) : Option Span :=
  advance program none 0 (.none program.size) none text

end Upkeep.Pattern
