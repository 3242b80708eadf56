/-!
# Command-line grammars — options, switches and plain arguments

A grammar lists the options of a command and the plain argument it takes. `Grammar.read` goes
through the words from left to right. The value of an option is judged when the next thing starts,
so `Reading` keeps one argument open: its words are there, but it is not settled. Reading stops at
a subcommand, which has a grammar of its own.
-/

namespace Upkeep.CommandLine

/-- Why a command line is refused, or not carried out because it asks for help. -/
inductive UsageError where
  | help
  /-- Nothing is said at all. -/
  | nothing
  | missingCommand
  | unknownCommand
  | unknownArgument
  | missingArgument
  /-- An option without its value, or a path that is empty. -/
  | missingValue
  /-- A value that does not pass the option's check. -/
  | badValue
  /-- A value for a switch. -/
  | unneededValue
  /-- Arguments that exclude one another, or one that is repeated. -/
  | conflict
  deriving DecidableEq, Repr

/-- The complaint in words. -/
def UsageError.message : UsageError → String
  | .help => "help was asked for"
  | .nothing => "nothing to do"
  | .missingCommand => "a command is missing"
  | .unknownCommand => "unknown command"
  | .unknownArgument => "unexpected argument"
  | .missingArgument => "an argument is missing"
  | .missingValue => "an option needs a value"
  | .badValue => "a value does not fit its option"
  | .unneededValue => "a switch takes no value"
  | .conflict => "arguments exclude one another"

/-- How an argument is used. -/
inductive Arity where
  /-- It is there or not, without a value. -/
  | switch
  | once
  | many
  deriving DecidableEq, Repr

/-- An argument. -/
structure Parameter where
  name : String
  arity : Arity := .once
  /-- What is wrong with a value. -/
  fault? : String → Option UsageError := fun _ => none

/-- The arguments of a command. -/
structure Grammar where
  options : List Parameter
  /-- The argument that is given without its name. -/
  plain : Option Parameter := none
  subcommands : List String := []

/-- What has been read: the arguments that are settled, with their values, and the open one. -/
structure Reading where
  given : List (String × List String) := []
  pending : Option (Parameter × List String) := none
  /-- Whether the open argument waits for its value. -/
  waits : Bool := false

namespace Reading

/-- Whether an argument was settled. -/
def has (reading : Reading) (name : String) : Bool := reading.given.any (·.1 = name)

/-- The values of an argument, in order. -/
def values (reading : Reading) (name : String) : List String :=
  (reading.given.filter (·.1 = name)).flatMap (·.2)

/-- The value of an argument that is given once. -/
def value? (reading : Reading) (name : String) : Option String := (reading.values name).getLast?

/-- Settles an argument. -/
def settle (reading : Reading) (parameter : Parameter) (values : List String) :
    Except UsageError Reading := do
  if parameter.arity ≠ .switch && values.isEmpty then throw .missingValue
  if parameter.arity ≠ .many && reading.has parameter.name then throw .conflict
  match values.findSome? parameter.fault? with
  | some fault => throw fault
  | none => return { reading with given := reading.given ++ [(parameter.name, values)] }

/-- Settles the open argument, if there is one. -/
def close (reading : Reading) : Except UsageError Reading :=
  match reading.pending with
  | none => .ok { reading with waits := false }
  | some (parameter, values) =>
    { reading with pending := none, waits := false }.settle parameter values

/-- Opens an argument, when the one before it is settled. -/
def openUp (reading : Reading) (parameter : Parameter) (values : List String) :
    Except UsageError Reading := do
  return { ← reading.close with
    pending := some (parameter, values), waits := values.isEmpty }

/-- Gives the open argument one more value. -/
def extend (reading : Reading) (value : String) : Reading :=
  { reading with
    pending := reading.pending.map fun (parameter, values) => (parameter, values ++ [value])
    waits := false }

end Reading

/-- The name and the value of a word that starts with two dashes. -/
def longOption? (word : String) : Option (String × Option String) :=
  match word.toList with
  | '-' :: '-' :: rest =>
    if rest.isEmpty then none
    else
      let name := rest.takeWhile (· ≠ '=')
      let value :=
        if name.length < rest.length then some (String.ofList (rest.drop (name.length + 1)))
        else none
      some (String.ofList name, value)
  | _ => none

/-- The letters of a word that starts with one dash. -/
def shortOptions? (word : String) : Option (List Char) :=
  match word.toList with
  | '-' :: c :: rest => if c = '-' then none else some (c :: rest)
  | _ => none

namespace Grammar

/-- Reads an option given by its name. -/
def readOption (grammar : Grammar) (reading : Reading) (name : String) (value : Option String) :
    Except UsageError Reading := do
  if name = "help" then
    if value.isSome then throw .unneededValue
    let _ ← reading.close
    throw .help
  match grammar.options.find? (·.name = name) with
  | none => throw .unknownArgument
  | some option =>
    match option.arity, value with
    | .switch, some _ => throw .unneededValue
    | .switch, none => (← reading.close).settle option []
    | _, some value => (← reading.close).settle option [value]
    | _, none => reading.openUp option []

/-- Reads letters behind a dash; only the one for help means something. -/
def readLetters (reading : Reading) (letters : List Char) : Except UsageError Reading := do
  if letters.head? = some 'h' then
    let _ ← reading.close
    throw .help
  throw .unknownArgument

/-- Reads a word that belongs to no option. -/
def readPlain (grammar : Grammar) (reading : Reading) (behindDashes : Bool) (word : String) :
    Except UsageError Reading :=
  match grammar.plain with
  | none =>
    if grammar.subcommands.isEmpty || (behindDashes && grammar.subcommands.contains word) then
      .error .unknownArgument
    else .error .unknownCommand
  | some plain =>
    let isOpen := reading.pending.any (·.1.name = plain.name)
    if plain.arity = .many then
      if isOpen then .ok (reading.extend word) else reading.openUp plain [word]
    else if isOpen || reading.has plain.name then .error .unknownArgument
    else reading.openUp plain [word]

/-- Reads words up to a subcommand, which is given with the words behind it. Behind two dashes,
every word is a plain one. -/
def read (grammar : Grammar) :
    Bool → Reading → List String → Except UsageError (Reading × Option (String × List String))
  | _, reading, [] => .ok (reading, none)
  | behindDashes, reading, word :: rest => do
    if behindDashes then
      read grammar true (← grammar.readPlain reading true word) rest
    else if !reading.waits && grammar.subcommands.contains word then
      return (reading, some (word, rest))
    else if word = "--" then read grammar true reading rest
    else
      let next ← match longOption? word, shortOptions? word with
        | some (name, value), _ => grammar.readOption reading name value
        | none, some letters => readLetters reading letters
        | none, none =>
          if reading.waits then pure (reading.extend word)
          else grammar.readPlain reading false word
      read grammar false next rest

end Grammar

end Upkeep.CommandLine
