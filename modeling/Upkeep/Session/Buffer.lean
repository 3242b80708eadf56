import Upkeep.Pattern.Reader
import Upkeep.Text.Lines
import Upkeep.Text.Utf8

/-!
# The receive buffer — text waits here until a pattern takes it

Text that arrives is put behind the text not taken yet. `Buffer.find` looks for the first match
among several patterns and takes everything up to its end. What is taken, in the order it is
taken, and what is left, make up what arrived: nothing is lost, repeated or reordered.
-/

namespace Upkeep

/-- Text that passes between the host and a device. -/
abbrev Text := List Char

/-- A match that was taken from the buffer: which pattern fired, the text before the match and
the matched text. -/
structure Match where
  index : Nat
  before : Text
  text : Text
  deriving DecidableEq, Repr

/-- Text that has arrived and has not been taken. -/
structure Buffer where
  unread : Text := []
  deriving DecidableEq, Repr

namespace Buffer

/-- The buffer after more text has arrived. -/
def push (buffer : Buffer) (chunk : Text) : Buffer := ⟨buffer.unread ++ chunk⟩

/-- Of two finds the one that starts earlier; the first one if they start together. -/
def earlier (best : Option (Nat × Pattern.Span)) (found : Nat × Pattern.Span) :
    Option (Nat × Pattern.Span) :=
  match best with
  | none => some found
  | some (index, span) =>
    if found.2.first < span.first then some found else some (index, span)

/-- The earliest match of the patterns in a text, with the pattern's index. Patterns that match
at one place go in the order of their indices. -/
def earliest (patterns : List Pattern) (text : Text) : Option (Nat × Pattern.Span) :=
  go 0 none patterns
where
  go (index : Nat) (best : Option (Nat × Pattern.Span)) :
      List Pattern → Option (Nat × Pattern.Span)
    | [] => best
    | pattern :: rest =>
      match pattern.find? text with
      | some span => go (index + 1) (earlier best (index, span)) rest
      | none => go (index + 1) best rest

/-- Takes the earliest match of the patterns, with the text before it. -/
def find (buffer : Buffer) (patterns : List Pattern) : Option Match × Buffer :=
  match earliest patterns buffer.unread with
  | none => (none, buffer)
  | some (index, span) =>
    let taken := buffer.unread.take span.last
    (some ⟨index, taken.take span.first, taken.drop span.first⟩,
      ⟨buffer.unread.drop span.last⟩)

/-- Whether a character begins at a byte offset, or the bytes end there. -/
def isBoundary (bytes : Bytes) (offset : Nat) : Bool :=
  match bytes[offset]? with
  | some b => !continues b
  | none => offset = bytes.length

/-- The first boundary that is met on the way from an offset on, within so many steps. -/
def seekBoundary (bytes : Bytes) : (steps offset : Nat) → Nat
  | 0, offset => offset
  | steps + 1, offset =>
    if isBoundary bytes offset then offset else seekBoundary bytes steps (offset + 1)

/-- The end of the unread text, at most so many bytes of it: it begins at the first boundary from
which no more are left. The bytes end within that many steps. -/
def tail (buffer : Buffer) (limit : Nat) : Text :=
  let bytes := encodeUtf8 buffer.unread
  (dropBytes? (seekBoundary bytes limit (bytes.length - limit)) buffer.unread).getD []

/-- Whether all text has been taken. -/
def isEmpty (buffer : Buffer) : Bool := buffer.unread.isEmpty

/-- The buffer with its text thrown away. -/
def clear (_ : Buffer) : Buffer := ⟨[]⟩

end Buffer

end Upkeep
