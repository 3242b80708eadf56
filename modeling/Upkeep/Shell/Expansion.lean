import Upkeep.Shell.Arithmetic
import Upkeep.Shell.Glob
import Upkeep.Shell.State
import Upkeep.Text.Blank

/-!
# Expansion — from words to fields

The pieces of a word are replaced by their text from left to right. Where a word stands for
arguments, what comes from a piece that is not quoted is split into fields; elsewhere it stays
one text. How a command inside a word is run is a parameter.
-/

namespace Upkeep.Shell

/-- Fields that are being made. -/
structure Fields where
  finished : List (List Marked) := []
  /-- The field that the next text belongs to. -/
  current : Option (List Marked) := none

namespace Fields

/-- With text at the end of the present field. Text that is not quoted starts a field only if
there is any. -/
def add (fields : Fields) (text : Bytes) (quoted : Bool) : Fields :=
  if text.isEmpty && !quoted then fields
  else { fields with current := some (fields.current.getD [] ++ text.map (·, quoted)) }

/-- With the present field ended. -/
def next (fields : Fields) : Fields :=
  match fields.current with
  | none => fields
  | some field => { finished := fields.finished ++ [field] }

/-- With text that is split at separators: blank ones end a field, others a field that may be
empty. -/
def split (separators : Bytes) (fields : Fields) (text : Bytes) : Fields :=
  text.foldl (fun fields b =>
    if separators.contains b then
      if b = 0x20 || b = 0x09 || b = 0x0A then fields.next
      else { fields with current := some (fields.current.getD []) }.next
    else fields.add [b] false) fields

/-- With fields of their own: the first one goes on with the present field. -/
def addAll (fields : Fields) : List Bytes → Fields
  | [] => fields
  | [text] => fields.add text true
  | text :: more => addAll (fields.add text true).next more

/-- The fields when all pieces are through. -/
def all (fields : Fields) : List (List Marked) := fields.next.finished

end Fields

namespace Expansion

/-- The separators of fields. -/
def separators : ShellM Bytes := do
  return (← ShellM.valueOf? "IFS").getD [0x20, 0x09, 0x0A]

/-- The number in a variable. -/
def variableNumber (bindings : List (String × Bytes)) (name : String) : Int :=
  (Arithmetic.leadingNumber (decodeLossy ((bindings.lookup name).getD []))).1

/-- The value of a parameter; nothing if it is not set. -/
def parameter? (name : String) : ShellM (Option Bytes) := do
  let s ← get
  match name with
  | "?" => return some (bytesOf (toString s.status))
  | "#" => return some (bytesOf (toString s.arguments.length))
  | "0" => return some (bytesOf s.name)
  | "$" => return some (bytesOf "1")
  | "!" | "-" => return some []
  | "@" | "*" =>
    return if s.arguments.isEmpty then none else some (List.intercalate [0x20] s.arguments)
  | _ =>
    match name.toNat? with
    | some n => return s.arguments[n - 1]?
    | none => return s.bindings.lookup name

/-- A text without the ends of lines behind it, and without null bytes. -/
def withoutLineEnds (text : Bytes) : Bytes :=
  dropEndWhile (· = 0x0A) (text.filter (· ≠ 0))

/-- The value, if it is good enough. -/
def given (unsetOnly : Bool) (value : Option Bytes) : Option Bytes :=
  if unsetOnly then value else value.filter (!·.isEmpty)

/-- One text of fields that were not split. -/
def joined (fields : Fields) : List Marked := fields.all.flatten

/-- One text of fields that were not split, without marks. -/
def plain (fields : Fields) : Bytes := (joined fields).map (·.1)

/-- Adds the value of a piece, which is split unless it was quoted. -/
def addValue (splits quoted : Bool) (value : Bytes) (fields : Fields) : ShellM Fields := do
  if splits && !quoted then return fields.split (← separators) value
  return fields.add value quoted

mutual

/-- Adds what a piece stands for. -/
def addPiece (run : Command → ShellM Unit) (splits : Bool) : Piece → Fields → ShellM Fields
  | .literal text quoted, fields => return fields.add text quoted
  | .parameter name use quoted, fields => do
    let asFields := splits && (name = "@" || (name = "*" && !quoted))
    match use with
    | .value =>
      if asFields && quoted then return fields.addAll (← get).arguments
      addValue splits quoted ((← parameter? name).getD []) fields
    | .length => return fields.add (bytesOf (toString ((← parameter? name).getD []).length)) quoted
    | .default unsetOnly word =>
      match given unsetOnly (← parameter? name) with
      | some value => addValue splits quoted value fields
      | none => addPieces run splits word (fields.add [] quoted)
    | .assign unsetOnly word =>
      match given unsetOnly (← parameter? name) with
      | some value => addValue splits quoted value fields
      | none =>
        let value := plain (← addPieces run false word {})
        ShellM.assign name value
        addValue splits quoted value fields
    | .instead unsetOnly word =>
      match given unsetOnly (← parameter? name) with
      | some _ => addPieces run splits word (fields.add [] quoted)
      | none => return fields.add [] quoted
    | .demand unsetOnly word =>
      match given unsetOnly (← parameter? name) with
      | some value => addValue splits quoted value fields
      | none =>
        let reason := textOf (plain (← addPieces run false word {}))
        let reason :=
          if reason ≠ "" then reason
          else if unsetOnly then "parameter not set"
          else "parameter not set or null"
        ShellM.abort (name ++ ": " ++ reason)
    | .trim fromEnd longest pattern =>
      let tokens := Glob.read (joined (← addPieces run false pattern {}))
      let value := Glob.trim tokens fromEnd longest ((← parameter? name).getD [])
      addValue splits quoted value fields
  | .output body quoted, fields => do
    let text := withoutLineEnds (← ShellM.capture (run body))
    addValue splits quoted text fields
  | .arithmetic body quoted, fields => do
    let text := decodeLossy (plain (← addPieces run false body {}))
    match Arithmetic.evaluate (variableNumber (← get).bindings) text with
    | .ok n => addValue splits quoted (bytesOf (toString n)) fields
    | .error reason =>
      ShellM.abort ("arithmetic expression: " ++ reason ++ ": \"" ++ String.ofList text ++ "\"")

/-- Adds what pieces stand for. -/
def addPieces (run : Command → ShellM Unit) (splits : Bool) :
    List Piece → Fields → ShellM Fields
  | [], fields => return fields
  | piece :: pieces, fields => do
    addPieces run splits pieces (← addPiece run splits piece fields)

end

/-- The arguments that words stand for. -/
def arguments (run : Command → ShellM Unit) (words : List Word) : ShellM (List Bytes) := do
  let fields ← words.mapM fun word => return (← addPieces run true word {}).all
  return fields.flatten.map (·.map (·.1))

/-- The one text that a word stands for. -/
def text (run : Command → ShellM Unit) (word : Word) : ShellM Bytes := do
  return plain (← addPieces run false word {})

/-- The pattern that a word stands for. -/
def pattern (run : Command → ShellM Unit) (word : Word) : ShellM (List Glob.Token) := do
  return Glob.read (joined (← addPieces run false word {}))

end Expansion

end Upkeep.Shell
