import Upkeep.Pattern.Basic

/-!
# Pattern programs — a tree laid out for a search in lockstep

A program is a list of instructions. An instruction either consumes one character, checks a
place, or says where to go on; a fork names its preferred way first. `layOut` places the program
of a tree at an address so that it falls through to the address behind it. A repetition whose
body can match nothing is laid out as one or more rounds made optional, so that a round without
characters never outranks the way out.

A short tree can have a huge program, for counts multiply. `Node.cost` tells its cost from the tree.
-/

namespace Upkeep.Pattern

/-- One instruction; targets are addresses in the program. -/
inductive Instr where
  | one (set : CharSet)
  | look (look : Look)
  | jump (target : Nat)
  | fork (first second : Nat)
  | accept

/-- A fork that prefers `inner` when greedy and `outer` otherwise. -/
def Instr.choose (greedy : Bool) (inner outer : Nat) : Instr :=
  if greedy then .fork inner outer else .fork outer inner

/-- `count` copies of a piece of program, each placed behind the one before it. -/
def layOutTimes (piece : Nat → List Instr) : Nat → Nat → List Instr
  | 0, _ => []
  | count + 1, start =>
    let code := piece start
    code ++ layOutTimes piece count (start + code.length)

/-- Up to `count` optional copies of a piece of program, all leaving to the same address: the
one behind the last copy. `size` is the length of a copy. -/
def layOutOptional (piece : Nat → List Instr) (size : Nat) (greedy : Bool) (exit : Nat) :
    Nat → Nat → List Instr
  | 0, _ => []
  | count + 1, start =>
    .choose greedy (start + 1) exit :: piece (start + 1) ++
      layOutOptional piece size greedy exit count (start + 1 + size)

/-- One or more rounds of a piece of program. -/
def layOutPlus (piece : Nat → List Instr) (greedy : Bool) (start : Nat) : List Instr :=
  let code := piece start
  code ++ [.choose greedy start (start + code.length + 1)]

/-- Any number of rounds of a piece of program that consumes something in each. -/
def layOutStar (piece : Nat → List Instr) (greedy : Bool) (start : Nat) : List Instr :=
  let code := piece (start + 1)
  .choose greedy (start + 1) (start + code.length + 2) :: code ++ [.jump start]

/-- Rounds as a repetition asks for them. -/
def layOutRep (piece : Nat → List Instr) (mayBeEmpty : Bool) (least : Nat) (most : Option Nat)
    (greedy : Bool) (start : Nat) : List Instr :=
  match least, most with
  | 0, none =>
    if mayBeEmpty then
      let plus := layOutPlus piece greedy (start + 1)
      .choose greedy (start + 1) (start + plus.length + 1) :: plus
    else layOutStar piece greedy start
  | least + 1, none =>
    let fixed := layOutTimes piece least start
    fixed ++ layOutPlus piece greedy (start + fixed.length)
  | least, some most =>
    let fixed := layOutTimes piece least start
    let open_ := start + fixed.length
    let size := (piece 0).length
    fixed ++ layOutOptional piece size greedy (open_ + (most - least) * (size + 1))
      (most - least) open_

/-- The program of a tree, placed at an address. -/
def layOut : Node → Nat → List Instr
  | .empty, _ => []
  | .one set, _ => [.one set]
  | .look look, _ => [.look look]
  | .cat a b, start =>
    let code := layOut a start
    code ++ layOut b (start + code.length)
  | .alt a b, start =>
    let first := layOut a (start + 1)
    let second := layOut b (start + first.length + 2)
    .fork (start + 1) (start + first.length + 2) ::
      first ++ .jump (start + first.length + second.length + 2) :: second
  | .rep a least most greedy, start =>
    layOutRep (layOut a) (a.minLength == 0) least most greedy start

/-- The whole program of a tree: its code from address 0 on and the end of a match. -/
def program (tree : Node) : Array Instr := (layOut tree 0 ++ [Instr.accept]).toArray

/-! ### Costs -/

/-- What a set adds to the cost of an instruction: large sets are tested by long chains. -/
def CharSet.weight : CharSet → Nat
  | .range _ last => if last.toNat < 128 then 8 else 400
  | .word => 60000
  | .digit => 7000
  | .blank => 700
  | .codes ranges => 90 * ranges.size
  | .none => 0
  | .union a b => a.weight + b.weight
  | .inter a b => min a.weight b.weight
  | .compl a => a.weight + 400
  | .folded a => 2 * a.weight

/-- The cost of consuming one character of a set. -/
def CharSet.cost : CharSet → Nat
  | .range first last =>
    if first = last then 32 * first.utf8Size else 32 + (CharSet.range first last).weight
  | set => 32 + set.weight

/-- The cost of a tree's program. -/
def Node.cost : Node → Nat
  | .empty | .look _ => 32
  | .one set => set.cost
  | .cat a b => a.cost + b.cost
  | .alt a b => a.cost + b.cost + 40
  | .rep a least none _ => a.cost * max least 1 + 104
  | .rep a least (some most) _ => a.cost * most + 40 * (most - least) + 32

/-- The greatest cost of a program. -/
def maxCost : Nat := 10 * Nat.pow 2 20

end Upkeep.Pattern
