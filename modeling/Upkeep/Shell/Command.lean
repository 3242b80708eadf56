import Upkeep.Host.Files

/-!
# Shell commands — the language of scripts

Scripts are written in the language of the host's shell. A word is made of pieces: text, and
expansions that give text when the word is used. A piece remembers whether it was quoted, since
only what was not quoted is split into fields and can stand for more than itself in a pattern.
Values are bytes, because a command may print any.
-/

namespace Upkeep.Shell

/-- How a redirection opens its file. -/
inductive Access where
  | read
  | write
  | append
  deriving DecidableEq, Repr

mutual

/-- A part of a word. -/
inductive Piece where
  | literal (text : Bytes) (quoted : Bool)
  | parameter (name : String) (use : Usage) (quoted : Bool)
  /-- What a command prints. -/
  | output (body : Command) (quoted : Bool)
  | arithmetic (body : List Piece) (quoted : Bool)

/-- What is made of a parameter's value. Where an alternative is given, `unsetOnly` says whether
an empty value is good enough. -/
inductive Usage where
  | value
  | length
  | default (unsetOnly : Bool) (word : List Piece)
  | assign (unsetOnly : Bool) (word : List Piece)
  | instead (unsetOnly : Bool) (word : List Piece)
  | demand (unsetOnly : Bool) (word : List Piece)
  /-- The value without the part at one end that matches a pattern. -/
  | trim (fromEnd longest : Bool) (pattern : List Piece)

/-- Where a stream of a command goes. -/
inductive Redirection where
  | file (stream : Nat) (access : Access) (path : List Piece)
  /-- To where another stream goes. -/
  | copy (stream : Nat) (source : List Piece)

/-- A command. -/
inductive Command where
  | skip
  /-- Assignments, words and redirections; the words name what is run. -/
  | simple (line : Nat) (assignments : List (String × List Piece)) (words : List (List Piece))
      (redirections : List Redirection)
  | sequence (first second : Command)
  | both (first second : Command)
  | either (first second : Command)
  | negate (body : Command)
  | pipe (source sink : Command)
  /-- Repeats as long as the test succeeds, or until it does. -/
  | loop (untilDone : Bool) (test body : Command)
  | choose (test yes no : Command)
  | select (subject : List Piece) (branches : List (List (List Piece) × Command))
  /-- For each of the words, or of the arguments. -/
  | each (line : Nat) (name : String) (words : Option (List (List Piece))) (body : Command)
  | subshell (body : Command)
  | define (name : String) (body : Command)
  | redirected (line : Nat) (body : Command) (redirections : List Redirection)

end

/-- A word. -/
abbrev Word := List Piece

instance : Inhabited Command := ⟨.skip⟩

/-- A script: its complete commands in order. A script with a mistake runs up to it. -/
structure Script where
  commands : List Command
  /-- The mistake, with its line. -/
  mistake : Option (Nat × String) := none

end Upkeep.Shell
