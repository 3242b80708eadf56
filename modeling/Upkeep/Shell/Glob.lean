import Upkeep.Host.Files

/-!
# Glob patterns — `*`, `?` and bracket expressions

A glob is read from bytes, each of which says whether it was quoted; a quoted byte stands for
itself. A bracket expression that is not closed stands for itself too.
-/

namespace Upkeep.Shell

/-- A byte of an expanded word, with whether it was quoted. -/
abbrev Marked := UInt8 × Bool

namespace Glob

/-- What one place of a glob stands for. -/
inductive Token where
  /-- Any bytes. -/
  | any
  | one
  | byte (b : UInt8)
  /-- A byte in one of the ranges, or in none of them. -/
  | set (negated : Bool) (ranges : List (UInt8 × UInt8))
  deriving DecidableEq, Repr

/-- Whether a byte ends a bracket expression. -/
def closesSet (item : Marked) : Bool := item = (0x5D, false)

/-- Reads the items of a bracket expression up to its end; its first item may be a bracket. -/
def readSet (first : Bool) : List Marked → Option (List (UInt8 × UInt8) × List Marked)
  | [] => none
  | [item] => if closesSet item && !first then some ([], []) else none
  | low :: dash :: rest =>
    if closesSet low && !first then some ([], dash :: rest)
    else
      match rest with
      | high :: rest' =>
        if dash = (0x2D, false) && !closesSet high then
          (readSet false rest').map fun (ranges, rest) => ((low.1, high.1) :: ranges, rest)
        else
          (readSet false (dash :: high :: rest')).map fun (ranges, rest) =>
            ((low.1, low.1) :: ranges, rest)
      | [] => if closesSet dash then some ([(low.1, low.1)], []) else none

/-- Reads a glob; every step takes a byte at least, and the length is the fuel. -/
def read (bytes : List Marked) : List Token := go bytes.length bytes
where
  go : Nat → List Marked → List Token
    | 0, _ => []
    | _, [] => []
    | fuel + 1, (b, true) :: rest => .byte b :: go fuel rest
    | fuel + 1, (b, false) :: rest =>
      if b = 0x2A then .any :: go fuel rest
      else if b = 0x3F then .one :: go fuel rest
      else if b = 0x5B then
        let (negated, items) := match rest with
          | (0x21, false) :: items => (true, items)
          | items => (false, items)
        match readSet true items with
        | some (ranges, rest) => .set negated ranges :: go fuel rest
        | none => .byte b :: go fuel rest
      else .byte b :: go fuel rest

/-- Whether a token admits a byte. -/
def Token.admits : Token → UInt8 → Bool
  | .any, _ => false
  | .one, _ => true
  | .byte b, c => b = c
  | .set negated ranges, c => (ranges.any fun (low, high) => low ≤ c && c ≤ high) != negated

/-- Whether a text, or the rest of it behind some of its bytes, has a property. -/
def anyRest (p : Bytes → Bool) : Bytes → Bool
  | [] => p []
  | b :: rest => p (b :: rest) || anyRest p rest

/-- Whether the whole of a text matches. -/
def matchesAll : List Token → Bytes → Bool
  | [], text => text.isEmpty
  | .any :: tokens, text => anyRest (matchesAll tokens) text
  | _ :: _, [] => false
  | token :: tokens, b :: text => token.admits b && matchesAll tokens text

/-- The text without its shortest or longest beginning or end that matches. -/
def trim (tokens : List Token) (fromEnd longest : Bool) (text : Bytes) : Bytes :=
  let cuts := List.range (text.length + 1)
  let cuts := if longest then cuts.reverse else cuts
  let cut (n : Nat) : Bytes × Bytes :=
    if fromEnd then
      ((text.drop (text.length - n)), text.take (text.length - n))
    else (text.take n, text.drop n)
  ((cuts.map cut).find? fun (part, _) => matchesAll tokens part).elim text (·.2)

end Glob

end Upkeep.Shell
