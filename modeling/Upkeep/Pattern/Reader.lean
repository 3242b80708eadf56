import Upkeep.Pattern.Property
import Upkeep.Pattern.Search

/-!
# Reading patterns — from their written form to a tree

Groups, alternatives, repetitions with counts and reluctant marks, bracketed sets with ranges,
nesting, named ASCII classes and set operations, escapes, properties, and flags for a group or for
the rest of one. A pattern that asks for what a search in lockstep cannot do, a back-reference or a
look around, is refused like one that is malformed, and so is one that is nested too deep or whose
program would take too much room. `Pattern.read` gives a pattern its program.
-/

namespace Upkeep

namespace Pattern

/-- Why a pattern is refused. -/
inductive Error where
  | unclosedGroup
  | unopenedGroup
  | unclosedSet
  | nothingToRepeat
  | malformedCount
  | unknownEscape
  | malformedRange
  | malformedFlags
  | malformedName
  | unknownProperty
  | lookAround
  | tooDeep
  | tooLarge
  deriving DecidableEq, Repr

/-- What the flags in force say. -/
structure Flags where
  /-- Letters stand for their case variants. -/
  fold : Bool := false
  /-- `^` and `$` stand for line ends as well. -/
  multiLine : Bool := false
  /-- The dot stands for a line feed as well. -/
  dotAll : Bool := false
  /-- Repetitions are reluctant unless marked. -/
  swapGreed : Bool := false
  /-- Blanks and comments are skipped. -/
  verbose : Bool := false
  /-- A carriage return ends a line as well. -/
  anyLine : Bool := false
  /-- Classes reach beyond ASCII. -/
  wide : Bool := true

/-- An item of a branch: its tree, which one that only sets flags does not have, and how deep it is
nested. -/
structure Item where
  node : Option Node
  height : Nat := 0

/-- An open group: the flags outside it, its finished branches and the items of the current one,
last ones first. -/
structure Level where
  outer : Flags
  branches : List (Node × Nat) := []
  items : List Item := []

/-- What has been read of a pattern. -/
structure Reading where
  flags : Flags := {}
  level : Level := ⟨{}, [], []⟩
  outerLevels : List Level := []
  names : List (List Char) := []

/-- The items one after another. -/
def Node.ofSeq : List Node → Node
  | [] => .empty
  | [a] => a
  | a :: rest => .cat a (ofSeq rest)

/-- The branches in order of preference. -/
def Node.ofAlt : List Node → Node
  | [] => .empty
  | [a] => a
  | a :: rest => .alt a (ofAlt rest)

/-- How deep the parts of something are nested in it: one level more if it has several. -/
def heightOf (heights : List Nat) : Nat :=
  heights.foldl max 0 + if 1 < heights.length then 1 else 0

/-- The current branch of a group as a tree, and how deep it is nested. -/
def Level.branch (level : Level) : Node × Nat :=
  (Node.ofSeq (level.items.filterMap Item.node).reverse, heightOf (level.items.map Item.height))

/-- The group as a tree, and how deep it is nested. -/
def Level.tree (level : Level) : Node × Nat :=
  let branches := level.branch :: level.branches
  (Node.ofAlt (branches.map Prod.fst).reverse, heightOf (branches.map Prod.snd))

/-- The reading with one item more. -/
def Reading.push (r : Reading) (node : Option Node) (height : Nat) : Reading :=
  { r with level := { r.level with items := ⟨node, height⟩ :: r.level.items } }

/-- The set, with the case variants of its members if the flags say so. -/
def Flags.foldSet (flags : Flags) (set : CharSet) : CharSet :=
  if flags.fold then .folded set else set

/-- The text without blanks and comments before it, where the flags allow those. -/
def Flags.skip (flags : Flags) (text : List Char) : List Char :=
  if flags.verbose then go text.length text else text
where
  go : Nat → List Char → List Char
    | 0, text => text
    | fuel + 1, text =>
      match text with
      | c :: rest =>
        if isBlank c then go fuel rest
        else if c = '#' then go fuel (rest.dropWhile (· != '\n'))
        else c :: rest
      | [] => []

/-- What an escape or a plain character stands for. -/
inductive Primitive where
  | literal (c : Char)
  | chars (set : CharSet)
  | look (look : Look)

/-- The primitive as an item of a branch. -/
def Primitive.node (flags : Flags) : Primitive → Node
  | .literal c => .one (flags.foldSet (.single c))
  | .chars set => .one set
  | .look place => .look place

/-- The value of a hexadecimal digit. -/
def hexValue? (c : Char) : Option Nat :=
  if asciiDigit c then some (c.toNat - 48)
  else if 'a' ≤ c && c ≤ 'f' then some (c.toNat - 87)
  else if 'A' ≤ c && c ≤ 'F' then some (c.toNat - 55)
  else none

/-- The number that hexadecimal digits write, if there are some. -/
def hexNumber? (digits : List Char) : Option Nat :=
  if digits.isEmpty then none
  else digits.foldl (fun n c => n.bind fun n => (hexValue? c).map (n * 16 + ·)) (some 0)

/-- The character with a code point, if there is one. -/
def charOfCode? (code : Nat) : Option Char :=
  if code.isValidChar then some (Char.ofNat code) else none

/-- A character by its code point: so many digits, or any number of them in braces. -/
def readCode (count : Nat) (text : List Char) : Except Error (Char × List Char) :=
  let (digits, rest) := match text with
    | '\x7b' :: rest => (rest.takeWhile (· != '\x7d'), (rest.dropWhile (· != '\x7d')))
    | _ => (text.take count, text.drop count)
  let closed := match text, rest with
    | '\x7b' :: _, [] => none
    | '\x7b' :: _, _ :: rest => some rest
    | _, rest => if digits.length = count then some rest else none
  match closed, (hexNumber? digits).bind charOfCode? with
  | some rest, some c => .ok (c, rest)
  | _, _ => .error .unknownEscape

/-- Decimal digits, as classes that may not reach beyond ASCII have them. -/
def asciiDigits : CharSet := .range '0' '9'

/-- Word characters of ASCII. -/
def asciiWords : CharSet :=
  .ofList [.range 'a' 'z', .range 'A' 'Z', .range '0' '9', .single '_']

/-- Blanks of ASCII. -/
def asciiBlanks : CharSet := .ofList [.range '\t' '\r', .single ' ']

/-- The class that a letter stands for behind a backslash. -/
def escapedClass? (flags : Flags) (c : Char) : Option (Except Error CharSet) :=
  let pick (wide narrow : CharSet) : CharSet := if flags.wide then wide else narrow
  let others (set : CharSet) : Except Error CharSet :=
    if flags.wide then .ok (.compl set) else .error .unknownEscape
  if c = 'd' then some (.ok (pick .digit asciiDigits))
  else if c = 's' then some (.ok (pick .blank asciiBlanks))
  else if c = 'w' then some (.ok (pick .word asciiWords))
  else if c = 'D' then some (others .digit)
  else if c = 'S' then some (others .blank)
  else if c = 'W' then some (others .word)
  else none

/-- The control or place that a letter stands for behind a backslash. -/
def escapedLetter? (flags : Flags) (c : Char) : Option Primitive :=
  match c with
  | 'a' => some (.literal '\x07')
  | 'f' => some (.literal '\x0c')
  | 't' => some (.literal '\t')
  | 'n' => some (.literal '\n')
  | 'r' => some (.literal '\r')
  | 'v' => some (.literal '\x0b')
  | 'A' => some (.look .textStart)
  | 'z' => some (.look .textEnd)
  | 'B' => some (.look (if flags.wide then .notWordBoundary else .notAsciiBoundary))
  | '<' => some (.look .wordStart)
  | '>' => some (.look .wordEnd)
  | _ => none

/-- A word boundary, which may name one of its halves in braces. -/
def readBoundary (flags : Flags) (text : List Char) : Except Error (Look × List Char) :=
  let plain : Look := if flags.wide then .wordBoundary else .asciiBoundary
  let isName (c : Char) : Bool := asciiLetter c || c = '-'
  match text with
  | '\x7b' :: rest =>
    let name := rest.takeWhile isName
    if name.isEmpty then .ok (plain, text)
    else match rest.dropWhile isName with
      | '\x7d' :: rest =>
        if name = "start".toList then .ok (.wordStart, rest)
        else if name = "end".toList then .ok (.wordEnd, rest)
        else if name = "start-half".toList then .ok (.wordStartHalf, rest)
        else if name = "end-half".toList then .ok (.wordEndHalf, rest)
        else .error .unknownEscape
      | _ => .error .unknownEscape
  | _ => .ok (plain, text)

/-- A property behind its letter: one letter for a kind of characters, or a name in braces. -/
def readProperty (flags : Flags) (negated : Bool) (text : List Char) :
    Except Error (Primitive × List Char) :=
  let named (name rest : List Char) : Except Error (Primitive × List Char) :=
    match propertyNamed? name with
    | some set =>
      let set := flags.foldSet set
      .ok (.chars (if negated then .compl set else set), rest)
    | none => .error .unknownProperty
  if !flags.wide then .error .unknownEscape
  else match text with
    | [] => .error .unknownEscape
    | '\x7b' :: rest =>
      match rest.dropWhile (· != '\x7d') with
      | [] => .error .unknownEscape
      | _ :: after => named (rest.takeWhile (· != '\x7d')) after
    | '\\' :: _ => .error .unknownEscape
    | c :: rest => named [c] rest

/-- What stands behind a backslash. Punctuation and other ASCII characters that are neither
letters nor digits stand for themselves. -/
def readEscape (flags : Flags) : List Char → Except Error (Primitive × List Char)
  | [] => .error .unknownEscape
  | c :: rest =>
    match escapedClass? flags c with
    | some set => set.map fun set => (.chars set, rest)
    | none =>
      if c = 'x' then (readCode 2 rest).map fun (c, rest) => (.literal c, rest)
      else if c = 'u' then (readCode 4 rest).map fun (c, rest) => (.literal c, rest)
      else if c = 'U' then (readCode 8 rest).map fun (c, rest) => (.literal c, rest)
      else if c = 'p' then readProperty flags false rest
      else if c = 'P' then readProperty flags true rest
      else if c = 'b' then (readBoundary flags rest).map fun (look, rest) => (.look look, rest)
      else match escapedLetter? flags c with
        | some primitive => .ok (primitive, rest)
        | none =>
          if asciiLetter c || asciiDigit c || 128 ≤ c.toNat then .error .unknownEscape
          else .ok (.literal c, rest)

/-- The named classes of ASCII. -/
def namedClass? (name : List Char) : Option CharSet :=
  let lower : CharSet := .range 'a' 'z'
  let upper : CharSet := .range 'A' 'Z'
  match String.ofList name with
  | "alnum" => some (.ofList [lower, upper, asciiDigits])
  | "alpha" => some (.ofList [lower, upper])
  | "ascii" => some (.range '\x00' '\x7f')
  | "blank" => some (.ofList [.single '\t', .single ' '])
  | "cntrl" => some (.ofList [.range '\x00' '\x1f', .single '\x7f'])
  | "digit" => some asciiDigits
  | "graph" => some (.range '!' '~')
  | "lower" => some lower
  | "print" => some (.range ' ' '~')
  | "punct" => some (.ofList [.range '!' '/', .range ':' '@', .range '[' '`',
      .range '\x7b' '~'])
  | "space" => some asciiBlanks
  | "upper" => some upper
  | "word" => some asciiWords
  | "xdigit" => some (.ofList [asciiDigits, .range 'a' 'f', .range 'A' 'F'])
  | _ => none

/-- A named class at the start of the text behind an opening bracket. -/
def readNamedClass? (text : List Char) : Option (CharSet × List Char) :=
  match text with
  | ':' :: rest =>
    let (negated, rest) := match rest with
      | '^' :: rest => (true, rest)
      | rest => (false, rest)
    let name := rest.takeWhile asciiLetter
    match rest.dropWhile asciiLetter with
    | ':' :: ']' :: after =>
      (namedClass? name).map fun set => (if negated then .compl set else set, after)
    | _ => none
  | _ => none

/-- Set operations between brackets, all of one rank and read from the left. -/
inductive SetOp where
  | inter
  | diff
  | symmDiff

/-- The result of a set operation. -/
def SetOp.apply (op : SetOp) (a b : CharSet) : CharSet :=
  match op with
  | .inter => .inter a b
  | .diff => a.diff b
  | .symmDiff => a.symmDiff b

/-- The items since the last set operation, put behind what stands before it. -/
def closeOperand (flags : Flags) (pending : Option (CharSet × SetOp)) (items : List CharSet) :
    CharSet :=
  let set := flags.foldSet (.ofList items)
  match pending with
  | none => set
  | some (left, op) => op.apply left set

/-- The start of a bracketed set: whether it is negated, and the leading characters that mean
themselves there although they mean something else later. -/
def openSet (flags : Flags) (text : List Char) : Bool × List CharSet × List Char :=
  let text := flags.skip text
  let (negated, text) := match text with
    | '^' :: rest => (true, flags.skip rest)
    | _ => (false, text)
  let dashes := text.takeWhile (· = '-')
  let text := text.dropWhile (· = '-')
  match dashes, text with
  | [], ']' :: rest => (negated, [.single ']'], rest)
  | [], text => (negated, [], text)
  | _, text => (negated, [.single '-'], text)

/-- One member of a bracketed set: an escape or a plain character. -/
def readMember (flags : Flags) : List Char → Except Error (Primitive × List Char)
  | [] => .error .unclosedSet
  | '\\' :: rest => readEscape flags rest
  | c :: rest => .ok (.literal c, rest)

/-- A member or a range of characters. A dash before a closing bracket or before another dash
makes no range. -/
def readSetItem (flags : Flags) (text : List Char) : Except Error (CharSet × List Char) := do
  let (first, rest) ← readMember flags text
  let alone : Except Error (CharSet × List Char) :=
    match first with
    | .literal c => .ok (.single c, rest)
    | .chars set => .ok (set, rest)
    | .look _ => .error .unknownEscape
  match flags.skip rest with
  | [] => .error .unclosedSet
  | '-' :: after =>
    match flags.skip after with
    | ']' :: _ | '-' :: _ => alone
    | [] => .error .unclosedSet
    | after =>
      let (last, rest) ← readMember flags after
      match first, last with
      | .literal a, .literal b =>
        if a ≤ b then .ok (.range a b, rest) else .error .malformedRange
      | _, _ => .error .malformedRange
  | _ => alone

/-- The rest of a bracketed set behind its start. Every round takes a character at least, so the
fuel of `readSet` covers every case. -/
def readSetRest (flags : Flags) : Nat → Bool → Option (CharSet × SetOp) → List CharSet →
    List Char → Except Error (CharSet × List Char)
  | 0, _, _, _, _ => .error .unclosedSet
  | fuel + 1, negated, pending, items, text =>
    match flags.skip text with
    | [] => .error .unclosedSet
    | ']' :: rest =>
      let set := flags.foldSet (closeOperand flags pending items)
      .ok (if negated then .compl set else set, rest)
    | '[' :: rest =>
      match readNamedClass? rest with
      | some (set, rest) => readSetRest flags fuel negated pending (items ++ [set]) rest
      | none => do
        let (inner, innerItems, rest) := openSet flags rest
        let (set, rest) ← readSetRest flags fuel inner none innerItems rest
        readSetRest flags fuel negated pending (items ++ [set]) rest
    | '&' :: '&' :: rest =>
      readSetRest flags fuel negated (some (closeOperand flags pending items, .inter)) [] rest
    | '-' :: '-' :: rest =>
      readSetRest flags fuel negated (some (closeOperand flags pending items, .diff)) [] rest
    | '~' :: '~' :: rest =>
      readSetRest flags fuel negated (some (closeOperand flags pending items, .symmDiff)) [] rest
    | text => do
      let (item, rest) ← readSetItem flags text
      readSetRest flags fuel negated pending (items ++ [item]) rest

/-- A bracketed set behind its opening bracket. -/
def readSet (flags : Flags) (text : List Char) : Except Error (CharSet × List Char) :=
  let (negated, items, rest) := openSet flags text
  readSetRest flags (text.length + 1) negated none items rest

/-- The decimal digits at the start of the text. Behind each there may be blanks and comments where
the flags allow those. -/
def readDigits (flags : Flags) : Nat → List Char → List Char × List Char
  | 0, text => ([], text)
  | fuel + 1, text =>
    match text with
    | [] => ([], [])
    | c :: rest =>
      if asciiDigit c then
        let (digits, rest) := readDigits flags fuel (flags.skip rest)
        (c :: digits, rest)
      else ([], text)

/-- A decimal number with blanks around it, below 2^32. -/
def readCount (flags : Flags) (text : List Char) : Except Error (Nat × List Char) :=
  let (digits, rest) := readDigits flags text.length (trimStart text)
  let number := digits.foldl (fun n c => n * 10 + (c.toNat - 48)) 0
  if digits.isEmpty || Nat.pow 2 32 ≤ number then .error .malformedCount
  else .ok (number, trimStart rest)

/-- The counts of a repetition behind its opening brace. A number has to stand behind a comma that
the closing brace does not follow, so blanks there are no way to leave it out. -/
def readCounts (flags : Flags) (text : List Char) : Except Error (Nat × Option Nat × List Char) := do
  let (least, rest) ← readCount flags (flags.skip text)
  match rest with
  | '\x7d' :: rest => .ok (least, some least, rest)
  | ',' :: rest =>
    match flags.skip rest with
    | '\x7d' :: rest => .ok (least, none, rest)
    | rest =>
      let (most, rest) ← readCount flags rest
      match rest with
      | '\x7d' :: rest =>
        if least ≤ most then .ok (least, some most, rest) else .error .malformedCount
      | _ => .error .malformedCount
  | _ => .error .malformedCount

/-- Repeats the last item. -/
def Reading.repeatLast (r : Reading) (least : Nat) (most : Option Nat) (text : List Char) :
    Except Error (Reading × List Char) :=
  let text := r.flags.skip text
  let (reluctant, text) := match text with
    | '?' :: rest => (true, rest)
    | _ => (false, text)
  match r.level.items with
  | ⟨some node, height⟩ :: items =>
    let repeated := Node.rep node least most (reluctant == r.flags.swapGreed)
    let item : Item := ⟨some repeated, height + 1⟩
    .ok ({ r with level := { r.level with items := item :: items } }, text)
  | _ => .error .nothingToRepeat

/-- The flags with one of them set or cleared, if the letter names one. -/
def Flags.with? (flags : Flags) (on : Bool) : Char → Option Flags
  | 'i' => some { flags with fold := on }
  | 'm' => some { flags with multiLine := on }
  | 's' => some { flags with dotAll := on }
  | 'U' => some { flags with swapGreed := on }
  | 'x' => some { flags with verbose := on }
  | 'R' => some { flags with anyLine := on }
  | 'u' => some { flags with wide := on }
  | _ => none

/-- The letters of a flag group: each at most once, some of them behind one minus sign. -/
def readFlagLetters (flags : Flags) (letters : List Char) : Except Error Flags :=
  let set := letters.takeWhile (· != '-')
  let cleared := letters.dropWhile (· != '-')
  let all := set ++ cleared.drop 1
  if cleared = ['-'] || !(all.eraseDups.length == all.length) then .error .malformedFlags
  else
    let apply (on : Bool) (flags : Option Flags) (c : Char) : Option Flags :=
      flags.bind (·.with? on c)
    match (cleared.drop 1).foldl (apply false) (set.foldl (apply true) (some flags)) with
    | some flags => .ok flags
    | none => .error .malformedFlags

/-- A group's name: it starts with a letter or an underscore and is followed by `>`. -/
def readName (text : List Char) : Except Error (List Char × List Char) :=
  let name := text.takeWhile (· != '>')
  let isFirst (c : Char) : Bool := c = '_' || (isWord c && !isDecimalDigit c)
  let isLater (c : Char) : Bool := isWord c || c = '.' || c = '[' || c = ']'
  match name, text.dropWhile (· != '>') with
  | first :: later, _ :: rest =>
    if isFirst first && later.all isLater then .ok (name, rest) else .error .malformedName
  | _, _ => .error .malformedName

/-- The reading inside a new group with the given flags. -/
def Reading.openGroup (r : Reading) (flags : Flags) : Reading :=
  { r with flags := flags, level := ⟨r.flags, [], []⟩, outerLevels := r.level :: r.outerLevels }

/-- A named group behind its opening angle. -/
def Reading.openNamed (r : Reading) (text : List Char) : Except Error (Reading × List Char) := do
  let (name, rest) ← readName text
  if r.names.contains name then .error .malformedName
  else .ok ({ r.openGroup r.flags with names := name :: r.names }, rest)

/-- What stands behind an opening parenthesis. -/
def Reading.openParen (r : Reading) (text : List Char) : Except Error (Reading × List Char) :=
  match r.flags.skip text with
  | '?' :: 'P' :: '<' :: rest => r.openNamed rest
  | '?' :: '<' :: '=' :: _ | '?' :: '<' :: '!' :: _ | '?' :: '=' :: _ | '?' :: '!' :: _ =>
    .error .lookAround
  | '?' :: '<' :: rest => r.openNamed rest
  | '?' :: rest =>
    let isLetter (c : Char) : Bool := c != ':' && c != ')'
    match rest.takeWhile isLetter, rest.dropWhile isLetter with
    | [], ')' :: _ => .error .nothingToRepeat
    | letters, ')' :: rest =>
      (readFlagLetters r.flags letters).map fun flags => ({ r with flags }.push none 0, rest)
    | letters, _ :: rest =>
      (readFlagLetters r.flags letters).map fun flags => (r.openGroup flags, rest)
    | _, [] => .error .unclosedGroup
  | text => .ok (r.openGroup r.flags, text)

/-- Closes the innermost group. -/
def Reading.closeParen (r : Reading) : Except Error Reading :=
  match r.outerLevels with
  | [] => .error .unopenedGroup
  | outer :: outerLevels =>
    let (tree, height) := r.level.tree
    .ok ({ r with flags := r.level.outer, level := outer, outerLevels }.push (some tree) (height + 1))

/-- Ends the current branch. -/
def Reading.nextBranch (r : Reading) : Reading :=
  { r with level := { r.level with branches := r.level.branch :: r.level.branches, items := [] } }

/-- What the dot stands for. -/
def Flags.dot (flags : Flags) : Except Error CharSet :=
  if !flags.wide then .error .unknownEscape
  else if flags.dotAll then .ok (.compl .none)
  else if flags.anyLine then .ok (.compl (.ofList [.single '\r', .single '\n']))
  else .ok (.compl (.single '\n'))

/-- What `^` stands for. -/
def Flags.caret (flags : Flags) : Look :=
  if !flags.multiLine then .textStart else if flags.anyLine then .anyLineStart else .lineStart

/-- What `$` stands for. -/
def Flags.dollar (flags : Flags) : Look :=
  if !flags.multiLine then .textEnd else if flags.anyLine then .anyLineEnd else .lineEnd

/-- Reads one item, parenthesis, bar or repetition. -/
def Reading.next (r : Reading) (c : Char) (rest : List Char) :
    Except Error (Reading × List Char) :=
  match c with
  | '(' => r.openParen rest
  | ')' => r.closeParen.map (·, rest)
  | '|' => .ok (r.nextBranch, rest)
  | '[' => (readSet r.flags rest).map fun (set, rest) => (r.push (some (.one set)) 1, rest)
  | '?' => r.repeatLast 0 (some 1) rest
  | '*' => r.repeatLast 0 none rest
  | '+' => r.repeatLast 1 none rest
  | '\x7b' =>
    if (r.level.items.head?.bind Item.node).isNone then .error .nothingToRepeat
    else do
      let (least, most, rest) ← readCounts r.flags rest
      r.repeatLast least most rest
  | '.' => r.flags.dot.map fun set => (r.push (some (.one set)) 0, rest)
  | '^' => .ok (r.push (some (.look r.flags.caret)) 0, rest)
  | '$' => .ok (r.push (some (.look r.flags.dollar)) 0, rest)
  | '\\' => (readEscape r.flags rest).map fun (primitive, rest) =>
      (r.push (some (primitive.node r.flags)) 0, rest)
  | c => .ok (r.push (some (Primitive.node r.flags (.literal c))) 0, rest)

/-- Reads to the end of the pattern. Every round takes a character at least, so the fuel of
`readTree` covers every case. -/
def Reading.finish : Nat → Reading → List Char → Except Error (Node × Nat)
  | 0, _, _ => .error .unclosedGroup
  | fuel + 1, r, text =>
    match r.flags.skip text with
    | [] => if r.outerLevels.isEmpty then .ok r.level.tree else .error .unclosedGroup
    | c :: rest => do
      let (r, rest) ← r.next c rest
      finish fuel r rest

/-- The deepest nesting of groups, sets, repetitions, sequences and alternatives. -/
def maxHeight : Nat := 250

/-- The tree that a pattern's text writes. -/
def readTree (text : List Char) : Except Error Node := do
  let (tree, height) ← Reading.finish (text.length + 1) {} text
  if maxHeight < height then .error .tooDeep
  else if maxCost < tree.cost then .error .tooLarge
  else .ok tree

end Pattern

/-- A pattern: its text and the program that searches for it. Two patterns are the same event
when their texts are equal. -/
structure Pattern where
  text : String
  code : Array Pattern.Instr

/-- Reads a pattern. -/
def Pattern.read (text : String) : Except Pattern.Error Pattern :=
  (Pattern.readTree text.toList).map fun tree => ⟨text, Pattern.program tree⟩

/-- The pattern of a text known to be one; a malformed text never matches. -/
def Pattern.ofText (text : String) : Pattern :=
  match Pattern.read text with
  | .ok pattern => pattern
  | .error _ => ⟨text, Pattern.program (.one .none)⟩

/-- The leftmost match in the text. -/
def Pattern.find? (pattern : Pattern) (text : List Char) : Option Pattern.Span :=
  Pattern.search pattern.code text

end Upkeep
