import Upkeep.Text.Lines

/-!
# The echo — a command's output without the command itself

A device prints the command back before its output. `stripEcho` normalises line ends, drops the
first line if it ends with the command, and drops the blanks at the end.
-/

namespace Upkeep

/-- The text with every pair of carriage return and line feed made a line feed and every other
carriage return dropped. -/
def unifyLineEnds (text : List Char) : List Char := text.filter (· != '\r')

/-- The text without the blanks after it, and without the first of its lines if that ends with
the command. A blank command is at the end of every line. -/
def stripEcho (command raw : List Char) : List Char :=
  let text := (unifyLineEnds raw).dropWhile (· = '\n')
  let echoes (line : List Char) : Bool := endsWith (trim command) (trimEnd line)
  let body := match splitLine text with
    | some (first, rest) => if echoes first then rest else text
    | none => if echoes text then [] else text
  trimEnd body

end Upkeep
