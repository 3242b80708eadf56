import Upkeep.Text.Word
import Upkeep.Text.Blank
import Upkeep.Text.Fold

/-!
# Patterns — what a regular expression is made of

A pattern is a tree over sets of characters and conditions on a place in the text. Among the
ways a pattern can match at one place the order of the tree decides: the first branch of an
alternative is tried first, and a repetition tries another round first unless it is reluctant.
There are no back-references and no conditions on the text further away than one character.
-/

namespace Upkeep.Pattern

/-- A set of characters, as it is written between brackets. -/
inductive CharSet where
  /-- Characters from the first to the last one. -/
  | range (first last : Char)
  | word
  | digit
  | blank
  /-- The characters in a table. -/
  | codes (ranges : CodeRanges)
  /-- The set without members. -/
  | none
  | union (a b : CharSet)
  | inter (a b : CharSet)
  /-- Everything the set does not hold. -/
  | compl (a : CharSet)
  /-- Case variants of the members. -/
  | folded (a : CharSet)

/-- Whether the set holds the character. -/
def CharSet.holds : CharSet → Char → Bool
  | .range first last, c => first ≤ c && c ≤ last
  | .word, c => isWord c
  | .digit, c => isDecimalDigit c
  | .blank, c => isBlank c
  | .codes ranges, c => ranges.contains c
  | .none, _ => false
  | .union a b, c => a.holds c || b.holds c
  | .inter a b, c => a.holds c && b.holds c
  | .compl a, c => !a.holds c
  | .folded a, c => (caseVariants c).any a.holds

/-- The set of one character. -/
def CharSet.single (c : Char) : CharSet := .range c c

/-- What the first set holds and the second one does not. -/
def CharSet.diff (a b : CharSet) : CharSet := .inter a (.compl b)

/-- What exactly one of the sets holds. -/
def CharSet.symmDiff (a b : CharSet) : CharSet := .union (a.diff b) (b.diff a)

/-- The union of some sets. -/
def CharSet.ofList (sets : List CharSet) : CharSet := sets.foldr .union .none

/-- A condition on a place in the text, read off the characters next to it. -/
inductive Look where
  | textStart
  | textEnd
  | lineStart
  | lineEnd
  /-- A line start where a carriage return, a line feed or the pair of them ends a line. -/
  | anyLineStart
  | anyLineEnd
  | wordBoundary
  | notWordBoundary
  | wordStart
  | wordEnd
  /-- Not behind a word character. -/
  | wordStartHalf
  /-- Not before a word character. -/
  | wordEndHalf
  /-- A boundary between ASCII word characters and others. -/
  | asciiBoundary
  | notAsciiBoundary
  deriving DecidableEq

/-- Whether there is a neighbour and it is a word character. -/
def beside (p : Char → Bool) : Option Char → Bool
  | .none => false
  | .some c => p c

/-- A word character of ASCII. -/
def isAsciiWord (c : Char) : Bool := asciiLetter c || asciiDigit c || c = '_'

/-- Whether the condition holds between the two neighbours. -/
def Look.holds (look : Look) (before after : Option Char) : Bool :=
  match look with
  | .textStart => before.isNone
  | .textEnd => after.isNone
  | .lineStart => before.isNone || before = some '\n'
  | .lineEnd => after.isNone || after = some '\n'
  | .anyLineStart =>
    before.isNone || before = some '\n' || (before = some '\r' && after != some '\n')
  | .anyLineEnd =>
    after.isNone || after = some '\r' || (after = some '\n' && before != some '\r')
  | .wordBoundary => beside isWord before != beside isWord after
  | .notWordBoundary => beside isWord before == beside isWord after
  | .wordStart => !beside isWord before && beside isWord after
  | .wordEnd => beside isWord before && !beside isWord after
  | .wordStartHalf => !beside isWord before
  | .wordEndHalf => !beside isWord after
  | .asciiBoundary => beside isAsciiWord before != beside isAsciiWord after
  | .notAsciiBoundary => beside isAsciiWord before == beside isAsciiWord after

/-- A pattern as a tree. -/
inductive Node where
  | empty
  | one (set : CharSet)
  | look (look : Look)
  | cat (a b : Node)
  | alt (a b : Node)
  /-- At least `least` rounds and at most `most`; reluctant unless `greedy`. -/
  | rep (a : Node) (least : Nat) (most : Option Nat) (greedy : Bool)

/-- The fewest characters a match can have. -/
def Node.minLength : Node → Nat
  | .empty | .look _ => 0
  | .one _ => 1
  | .cat a b => a.minLength + b.minLength
  | .alt a b => min a.minLength b.minLength
  | .rep a least _ _ => a.minLength * least

end Upkeep.Pattern
