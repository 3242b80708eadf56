import Upkeep.Shell.Command
import Upkeep.Text.Quoted

/-!
# Reading scripts

A script is read one complete command at a time, and each of them runs before the next one is
read: a mistake shows only when the commands before it have run. `Script.read` therefore gives
the commands before the first mistake along with the mistake.

Words, expansions and commands contain one another, so their readers do too. Every call goes one
level down from a fuel that is a multiple of the length of the script.
-/

namespace Upkeep.Shell

/-- What is left to read, and the number of the line. -/
structure Cursor where
  rest : List Char
  line : Nat := 1

/-- A reader; it fails with a mistake in words. -/
abbrev Reader := ExceptT String (StateM Cursor)

namespace Reader

/-- The characters that end a word. -/
def isMeta (c : Char) : Bool := c ∈ [' ', '\t', '\n', ';', '&', '|', '<', '>', '(', ')']

/-- Whether a name may start with a character. -/
def startsName (c : Char) : Bool := c.isAlpha || c = '_'

/-- Whether a name may go on with a character. -/
def continuesName (c : Char) : Bool := c.isAlphanum || c = '_'

/-- The names of parameters that are one character long. -/
def isSpecial (c : Char) : Bool := c ∈ ['?', '#', '$', '!', '@', '*', '-']

/-- Words that mean something in the place of a command. -/
def reserved : List String :=
  ["if", "then", "elif", "else", "fi", "while", "until", "do", "done", "for", "in", "case",
    "esac", "!", "\x7b", "\x7d"]

/-- The reserved words that end a list of commands. -/
def closing : List String := ["then", "elif", "else", "fi", "do", "done", "esac", "\x7d"]

/-- What is left. -/
def rest : Reader (List Char) := return (← get).rest

/-- The number of the line. -/
def line : Reader Nat := return (← get).line

/-- The next character. -/
def peek : Reader (Option Char) := return (← get).rest.head?

/-- Takes so many characters. -/
def take (n : Nat) : Reader (List Char) := do
  let cursor ← get
  let taken := cursor.rest.take n
  set { cursor with rest := cursor.rest.drop n, line := cursor.line + taken.count '\n' }
  return taken

/-- Takes the characters with a property, up to the first one without. -/
def takeWhile (p : Char → Bool) : Reader (List Char) := do
  take (((← rest).takeWhile p).length)

/-- Takes a text if it comes next. -/
def takeIf (text : String) : Reader Bool := do
  if text.toList.isPrefixOf (← rest) then
    discard (take text.length)
    return true
  return false

/-- Takes blanks, line continuations and a comment. Each of them takes a character at least. -/
def skipBlanks : Reader Unit := do go (← rest).length
where
  go : Nat → Reader Unit
    | 0 => return
    | fuel + 1 => do
      match ← rest with
      | ' ' :: _ | '\t' :: _ =>
        discard (take 1)
        go fuel
      | '\\' :: '\n' :: _ =>
        discard (take 2)
        go fuel
      | '#' :: _ => discard (takeWhile (· ≠ '\n'))
      | _ => return

/-- Takes blanks and ends of lines. -/
def skipLines : Reader Unit := do go (← rest).length
where
  go : Nat → Reader Unit
    | 0 => return
    | fuel + 1 => do
      skipBlanks
      if (← peek) = some '\n' then
        discard (take 1)
        go fuel

/-- The characters up to the end of the word. -/
def wordAhead : Reader String := do
  return String.ofList ((← rest).takeWhile fun c => !isMeta c)

/-- What a mistake calls the thing that comes next. -/
def nextThing : Reader String := do
  match ← rest with
  | [] => return "end of file"
  | '\n' :: _ => return "newline"
  | ';' :: ';' :: _ => return "\";;\""
  | '&' :: '&' :: _ => return "\"&&\""
  | '|' :: '|' :: _ => return "\"||\""
  | c :: _ =>
    if isMeta c then return "\"" ++ c.toString ++ "\""
    let word ← wordAhead
    return if reserved.contains word then "\"" ++ word ++ "\"" else "word"

/-- Fails because of what comes next. -/
def unexpected {α : Type} (expected : Option String := none) : Reader α := do
  let found := (← nextThing) ++ " unexpected"
  throw (match expected with
    | some text => found ++ " (expecting \"" ++ text ++ "\")"
    | none => found)

/-- Takes a reserved word, which has to come next. -/
def demand (word : String) : Reader Unit := do
  skipLines
  if (← wordAhead) = word then discard (take word.length) else unexpected (some word)

/-- Takes a character, which has to come next. -/
def demandChar (c : Char) : Reader Unit := do
  if (← peek) = some c then discard (take 1) else unexpected (some c.toString)

/-- Where a piece stands, which decides how it ends and what quotes. -/
inductive Place where
  | word
  | quotes
  | braces (quoted : Bool)
  | arithmetic (depth : Nat)
  deriving DecidableEq

/-- Whether text at a place is quoted. -/
def Place.isQuoted : Place → Bool
  | .word => false
  | .quotes => true
  | .braces quoted => quoted
  | .arithmetic _ => true

/-- Whether text at a place ends before a character. -/
def Place.ends : Place → Char → Bool
  | .word, c => isMeta c
  | .quotes, c => c = '"'
  | .braces _, c => c = '\x7d'
  | .arithmetic depth, c => depth = 0 && c = ')'

/-- A text in front of pieces; text of one kind stays one piece. -/
def consText (text : List Char) (quoted : Bool) : List Piece → List Piece
  | .literal bytes q :: pieces =>
    if q = quoted then .literal (encodeUtf8 text ++ bytes) q :: pieces
    else .literal (encodeUtf8 text) quoted :: .literal bytes q :: pieces
  | pieces => .literal (encodeUtf8 text) quoted :: pieces

/-- The text of an old-style command expansion, up to its end. -/
def untilBacktick : List Char → Option (List Char × Nat)
  | [] => none
  | '\x60' :: _ => some ([], 1)
  | '\\' :: c :: rest =>
    let kept := if c = '\x60' || c = '\\' || c = '$' then [c] else ['\\', c]
    (untilBacktick rest).map fun (text, n) => (kept ++ text, n + 2)
  | c :: rest => (untilBacktick rest).map fun (text, n) => (c :: text, n + 1)

/-- Reads a name in front of `=`, with the sign. -/
def assignedName? : Reader (Option String) := do
  let text ← rest
  let name := text.takeWhile continuesName
  if (name.head?.any startsName) && (text.drop name.length).head? = some '=' then
    discard (take (name.length + 1))
    return some (String.ofList name)
  return none

/-- A plain word in front of a parenthesis: a function's name. -/
def functionName? : Reader (Option String) := do
  let text ← rest
  let name := text.takeWhile continuesName
  let behind := (text.drop name.length).dropWhile (· = ' ')
  if (name.head?.any startsName) && behind.head? = some '(' then
    discard (take name.length)
    skipBlanks
    return some (String.ofList name)
  return none

/-- The number of the stream in front of a redirection. -/
def streamAhead? : Reader (Option (Option Nat)) := do
  let text ← rest
  let digits := text.takeWhile Char.isDigit
  match (text.drop digits.length).head? with
  | some '<' | some '>' =>
    discard (take digits.length)
    return some (if digits.isEmpty then none else (String.ofList digits).toNat?)
  | _ => return none

mutual

/-- Reads pieces up to the end of their place. -/
def pieces : Nat → Place → Reader (List Piece)
  | 0, _ => throw "word too deep"
  | fuel + 1, place => do
    match ← rest with
    | [] =>
      match place with
      | .word => return []
      | .quotes => throw "Unterminated quoted string"
      | .braces _ | .arithmetic _ => throw "Missing '\x7d'"
    | c :: behind =>
      if place.ends c then return []
      let text (n : Nat) (text : List Char) (quoted : Bool) : Reader (List Piece) := do
        discard (take n)
        return consText text quoted (← pieces fuel place)
      match c, behind with
      | '\'', _ =>
        if place.isQuoted then text 1 [c] true
        else
          let inside := behind.takeWhile (· ≠ '\'')
          if inside.length = behind.length then throw "Unterminated quoted string"
          text (inside.length + 2) inside true
      | '"', _ =>
        match place with
        | .arithmetic _ => text 1 [] true
        | _ =>
          discard (take 1)
          let inside ← pieces fuel .quotes
          demandChar '"'
          let inside := if inside.isEmpty then [.literal [] true] else inside
          return inside ++ (← pieces fuel place)
      | '\\', '\n' :: _ => text 2 [] place.isQuoted
      | '\\', d :: _ =>
        if place.isQuoted && !(d ∈ ['$', '\x60', '"', '\\', '\x7d']) then text 1 [c] true
        else text 2 [d] true
      | '$', _ =>
        discard (take 1)
        let piece ← expansion fuel place.isQuoted
        let later ← pieces fuel place
        return match piece with
          | some piece => piece :: later
          | none => consText ['$'] place.isQuoted later
      | '\x60', _ =>
        match untilBacktick behind with
        | none => throw "EOF in backquote substitution"
        | some (inside, n) =>
          let line ← line
          discard (take (n + 1))
          let after ← get
          set ({ rest := inside, line } : Cursor)
          let body ← commands fuel
          if (← peek).isSome then unexpected
          set after
          return .output body place.isQuoted :: (← pieces fuel place)
      | '(', _ =>
        match place with
        | .arithmetic depth =>
          discard (take 1)
          let inside ← pieces fuel (.arithmetic (depth + 1))
          return consText ['('] true inside
        | _ => text 1 [c] place.isQuoted
      | ')', _ =>
        match place with
        | .arithmetic depth =>
          discard (take 1)
          let inside ← pieces fuel (.arithmetic (depth - 1))
          return consText [')'] true inside
        | _ => text 1 [c] place.isQuoted
      | _, _ => text 1 [c] place.isQuoted

/-- Reads what a dollar sign starts; nothing if it stands for itself. -/
def expansion : Nat → Bool → Reader (Option Piece)
  | 0, _ => throw "word too deep"
  | fuel + 1, quoted => do
    match ← rest with
    | '(' :: '(' :: _ =>
      discard (take 2)
      let body ← pieces fuel (.arithmetic 0)
      demandChar ')'
      demandChar ')'
      return some (.arithmetic body quoted)
    | '(' :: _ =>
      discard (take 1)
      let body ← commands fuel
      demandChar ')'
      return some (.output body quoted)
    | '\x7b' :: _ =>
      discard (take 1)
      let measured := match ← rest with
        | '#' :: c :: _ => startsName c || c.isDigit || c = '@' || c = '*'
        | _ => false
      if measured then discard (take 1)
      let name ← parameterName
      let use ← usage fuel quoted measured
      demandChar '\x7d'
      return some (.parameter name use quoted)
    | c :: _ =>
      if startsName c then
        return some (.parameter (String.ofList (← takeWhile continuesName)) .value quoted)
      else if c.isDigit || isSpecial c then
        return some (.parameter (String.ofList (← take 1)) .value quoted)
      else return none
    | [] => return none
where
  /-- The name between braces. -/
  parameterName : Reader String := do
    match ← rest with
    | c :: _ =>
      if startsName c then return String.ofList (← takeWhile continuesName)
      else if c.isDigit then return String.ofList (← takeWhile Char.isDigit)
      else if isSpecial c then return String.ofList (← take 1)
      else throw "Bad substitution"
    | [] => throw "Missing '\x7d'"

/-- Reads what is made of a parameter between braces. -/
def usage : Nat → Bool → Bool → Reader Usage
  | 0, _, _ => throw "word too deep"
  | fuel + 1, quoted, measured => do
    if measured then return .length
    let unsetOnly := !(← takeIf ":")
    let word : Reader (List Piece) := pieces fuel (.braces quoted)
    match ← peek with
    | some '\x7d' => if unsetOnly then return .value else throw "Bad substitution"
    | some '-' => discard (take 1); return .default unsetOnly (← word)
    | some '=' => discard (take 1); return .assign unsetOnly (← word)
    | some '+' => discard (take 1); return .instead unsetOnly (← word)
    | some '?' => discard (take 1); return .demand unsetOnly (← word)
    | some '#' =>
      discard (take 1)
      let longest ← takeIf "#"
      return .trim false longest (← pieces fuel (.braces false))
    | some '%' =>
      discard (take 1)
      let longest ← takeIf "%"
      return .trim true longest (← pieces fuel (.braces false))
    | _ => throw "Bad substitution"

/-- Reads a word, which has to come next. -/
def word : Nat → Reader Word
  | 0 => throw "word too deep"
  | fuel + 1 => do
    skipBlanks
    match ← pieces fuel .word with
    | [] => unexpected
    | found => return found

/-- Reads a redirection behind its stream. -/
def redirection : Nat → Option Nat → Reader Redirection
  | 0, _ => throw "word too deep"
  | fuel + 1, stream => do
    if ← takeIf ">>" then return .file (stream.getD 1) .append (← word fuel)
    else if ← takeIf ">&" then return .copy (stream.getD 1) (← word fuel)
    else if ← takeIf ">|" then return .file (stream.getD 1) .write (← word fuel)
    else if ← takeIf ">" then return .file (stream.getD 1) .write (← word fuel)
    else if ← takeIf "<&" then return .copy (stream.getD 0) (← word fuel)
    else if ← takeIf "<<" then throw "here-document refused"
    else if ← takeIf "<>" then return .file (stream.getD 0) .read (← word fuel)
    else
      discard (take 1)
      return .file (stream.getD 0) .read (← word fuel)

/-- Reads the redirections behind a compound command. -/
def redirections : Nat → Reader (List Redirection)
  | 0 => throw "command too deep"
  | fuel + 1 => do
    skipBlanks
    match ← streamAhead? with
    | none => return []
    | some stream => return (← redirection fuel stream) :: (← redirections fuel)

/-- Reads the rest of a simple command. -/
def simple : Nat → Nat → List (String × Word) → List Word → List Redirection → Reader Command
  | 0, _, _, _, _ => throw "command too deep"
  | fuel + 1, line, assignments, words, redirects => do
    skipBlanks
    if let some stream ← streamAhead? then
      let redirect ← redirection fuel stream
      return ← simple fuel line assignments words (redirects ++ [redirect])
    match ← peek with
    | none => return .simple line assignments words redirects
    | some c =>
      if isMeta c then return .simple line assignments words redirects
      if words.isEmpty then
        if let some name ← assignedName? then
          let value ← pieces fuel .word
          return ← simple fuel line (assignments ++ [(name, value)]) words redirects
      let next ← word fuel
      simple fuel line assignments (words ++ [next]) redirects

/-- Reads the patterns of a branch. -/
def branchPatterns : Nat → Reader (List Word)
  | 0 => throw "command too deep"
  | fuel + 1 => do
    let pattern ← word fuel
    skipBlanks
    if ← takeIf "|" then return pattern :: (← branchPatterns fuel)
    demandChar ')'
    return [pattern]

/-- Reads the branches of a selection, up to its end. -/
def branches : Nat → Reader (List (List Word × Command))
  | 0 => throw "command too deep"
  | fuel + 1 => do
    skipLines
    if (← wordAhead) = "esac" then
      discard (take 4)
      return []
    discard (takeIf "(")
    let patterns ← branchPatterns fuel
    let body ← commands fuel
    skipLines
    if ← takeIf ";;" then return (patterns, body) :: (← branches fuel)
    demand "esac"
    return [(patterns, body)]

/-- Reads what follows a test, up to the end of the choice. -/
def alternatives : Nat → Reader Command
  | 0 => throw "command too deep"
  | fuel + 1 => do
    let test ← someCommands fuel
    demand "then"
    let yes ← someCommands fuel
    skipLines
    match ← wordAhead with
    | "elif" =>
      discard (take 4)
      return .choose test yes (← alternatives fuel)
    | "else" =>
      discard (take 4)
      let no ← someCommands fuel
      demand "fi"
      return .choose test yes no
    | _ =>
      demand "fi"
      return .choose test yes .skip

/-- Reads the words of a loop. -/
def loopWords : Nat → Reader (List Word)
  | 0 => throw "command too deep"
  | fuel + 1 => do
    skipBlanks
    match ← peek with
    | none => return []
    | some c => if isMeta c then return [] else return (← word fuel) :: (← loopWords fuel)

/-- Reads the commands of a loop. -/
def loopBody : Nat → Reader Command
  | 0 => throw "command too deep"
  | fuel + 1 => do
    demand "do"
    let body ← someCommands fuel
    demand "done"
    return body

/-- Reads a compound command; nothing if none starts here. -/
def compound : Nat → Reader (Option Command)
  | 0 => throw "command too deep"
  | fuel + 1 => do
    if ← takeIf "(" then
      let body ← someCommands fuel
      demandChar ')'
      return some (.subshell body)
    let next ← wordAhead
    match next with
    | "\x7b" =>
      discard (take 1)
      let body ← someCommands fuel
      demand "\x7d"
      return some body
    | "if" =>
      discard (take 2)
      return some (← alternatives fuel)
    | "while" | "until" =>
      discard (take 5)
      let test ← someCommands fuel
      return some (.loop (next = "until") test (← loopBody fuel))
    | "for" =>
      discard (take 3)
      skipBlanks
      let line ← line
      let name ← takeWhile continuesName
      if !(name.head?.any startsName) then throw "Bad for loop variable"
      skipLines
      let words ← if (← wordAhead) = "in" then do
          discard (take 2)
          pure (some (← loopWords fuel))
        else pure none
      skipBlanks
      discard (takeIf ";")
      return some (.each line (String.ofList name) words (← loopBody fuel))
    | "case" =>
      discard (take 4)
      let subject ← word fuel
      demand "in"
      return some (.select subject (← branches fuel))
    | _ => return none

/-- Reads one command. -/
def command : Nat → Reader Command
  | 0 => throw "command too deep"
  | fuel + 1 => do
    skipBlanks
    let line ← line
    match ← compound fuel with
    | some body =>
      match ← redirections fuel with
      | [] => return body
      | found => return .redirected line body found
    | none =>
      let next ← wordAhead
      if reserved.contains next then unexpected
      if let some name ← functionName? then
        demandChar '('
        skipBlanks
        demandChar ')'
        skipLines
        return .define name (← command fuel)
      match ← simple fuel line [] [] [] with
      | .simple _ [] [] [] => unexpected
      | found => return found

/-- Reads commands joined by bars. -/
def pipeline : Nat → Reader Command
  | 0 => throw "command too deep"
  | fuel + 1 => do
    skipBlanks
    if (← wordAhead) = "!" then
      discard (take 1)
      return .negate (← pipeline fuel)
    let first ← command fuel
    skipBlanks
    match ← rest with
    | '|' :: '|' :: _ => return first
    | '|' :: _ =>
      discard (take 1)
      skipLines
      return .pipe first (← pipeline fuel)
    | _ => return first

/-- Reads the commands behind a first one that hang on its success. -/
def conditional : Nat → Command → Reader Command
  | 0, _ => throw "command too deep"
  | fuel + 1, first => do
    skipBlanks
    if ← takeIf "&&" then
      skipLines
      conditional fuel (.both first (← pipeline fuel))
    else if ← takeIf "||" then
      skipLines
      conditional fuel (.either first (← pipeline fuel))
    else return first

/-- Reads commands up to the end of their list. -/
def commands : Nat → Reader Command
  | 0 => throw "command too deep"
  | fuel + 1 => do
    skipLines
    match ← rest with
    | [] | ')' :: _ | ';' :: ';' :: _ => return .skip
    | _ =>
      if closing.contains (← wordAhead) then return .skip
      let first ← conditional fuel (← pipeline fuel)
      skipBlanks
      match ← rest with
      | ';' :: ';' :: _ => return first
      | ';' :: _ | '\n' :: _ =>
        discard (take 1)
        return .sequence first (← commands fuel)
      | '&' :: _ =>
        discard (take 1)
        return .sequence (.subshell first) (← commands fuel)
      | _ => return first

/-- Reads a list of commands, which may not be empty. The end of the script is left to whoever
expects something behind the list. -/
def someCommands : Nat → Reader Command
  | 0 => throw "command too deep"
  | fuel + 1 => do
    skipLines
    match ← rest with
    | [] => return .skip
    | ')' :: _ | ';' :: _ => unexpected
    | _ =>
      if closing.contains (← wordAhead) then unexpected
      commands fuel

/-- Reads one complete command: one list, up to the end of its line. -/
def completeCommand : Nat → Reader Command
  | 0 => throw "command too deep"
  | fuel + 1 => do
    skipBlanks
    let first ← conditional fuel (← pipeline fuel)
    skipBlanks
    match ← rest with
    | [] => return first
    | '\n' :: _ => return first
    | ';' :: ';' :: _ => unexpected
    | ';' :: _ | '&' :: _ =>
      let first := if (← peek) = some '&' then .subshell first else first
      discard (take 1)
      skipBlanks
      match ← peek with
      | none | some '\n' => return first
      | _ => return .sequence first (← completeCommand fuel)
    | _ => unexpected

end

end Reader

/-- Reads a script. -/
def Script.read (text : List Char) : Script := go text.length { rest := text }
where
  go : Nat → Cursor → Script
    | 0, _ => ⟨[], none⟩
    | n + 1, cursor =>
      match Reader.skipLines.run cursor with
      | (_, cursor) =>
        if cursor.rest.isEmpty then ⟨[], none⟩
        else
          match (Reader.completeCommand (32 * (cursor.rest.length + 1))).run cursor with
          | (.error mistake, cursor) => ⟨[], some (cursor.line, mistake)⟩
          | (.ok command, cursor) =>
            let later := go n cursor
            ⟨command :: later.commands, later.mistake⟩

end Upkeep.Shell
