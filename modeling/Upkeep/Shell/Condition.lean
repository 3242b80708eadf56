import Upkeep.Shell.Arithmetic
import Upkeep.Shell.State

/-!
# Conditions — what `test` says of its arguments

The number of arguments decides how they are read, so a text that looks like an operator can be
tested too. Paths are looked up from the shell's directory.
-/

namespace Upkeep.Shell.Condition

/-- Whether an operator with one operand holds; nothing if there is no such operator. -/
def unary? (files : Files) (directory operator : String) (operand : Bytes) : Option Bool :=
  let node? : Option FileNode :=
    match files.resolve (joinPath directory (textOf operand)) with
    | .ok names => files.node? names
    | .error _ => none
  let isFile : Bool := match node? with
    | some (.file _ _) => true
    | _ => false
  match operator with
  | "-n" => some !operand.isEmpty
  | "-z" => some operand.isEmpty
  | "-e" | "-r" | "-w" => some node?.isSome
  | "-f" => some isFile
  | "-d" => some (node? = some .directory)
  | "-s" => some (match node? with
    | some (.file content _) => !content.isEmpty
    | other => other.isSome)
  | "-x" => some (match node? with
    | some (.file _ executable) => executable
    | other => other.isSome)
  | "-t" | "-h" | "-L" | "-p" | "-S" | "-b" | "-c" | "-u" | "-g" | "-k" => some false
  | _ => none

/-- The number that a whole text is. -/
def number (bytes : Bytes) : Except String Int :=
  let text := decodeLossy bytes
  let negative := (Arithmetic.trimmed text).head? = some '-'
  let digits := (Arithmetic.trimmed text).dropWhile fun c => c = '-' || c = '+'
  let taken := digits.takeWhile Char.isDigit
  if taken.isEmpty || !(Arithmetic.trimmed (digits.drop taken.length)).isEmpty then
    .error ("Illegal number: " ++ String.ofList text)
  else
    let value : Int := ((String.ofList taken).toNat?.getD 0 : Nat)
    .ok (if negative then -value else value)

/-- Whether an operator with two operands holds; nothing if there is no such operator. -/
def binary? (operator : String) (a b : Bytes) : Option (Except String Bool) :=
  let compare (p : Int → Int → Bool) : Option (Except String Bool) :=
    some (do return p (← number a) (← number b))
  match operator with
  | "=" => some (.ok (a = b))
  | "!=" => some (.ok (a ≠ b))
  | "-eq" => compare (· = ·)
  | "-ne" => compare (· ≠ ·)
  | "-lt" => compare (· < ·)
  | "-le" => compare (· ≤ ·)
  | "-gt" => compare fun a b => b < a
  | "-ge" => compare fun a b => b ≤ a
  | _ => none

/-- The arguments in front of a word and behind it, at its first place that has something in
front. -/
def splitAtWord? (word : Bytes) (arguments : List Bytes) : Option (List Bytes × List Bytes) :=
  let front := arguments.takeWhile (· ≠ word)
  if front.isEmpty || front.length = arguments.length then none
  else some (front, arguments.drop (front.length + 1))

/-- Whether the arguments hold. Each step reads fewer of them, and their number is the fuel. -/
def evaluate (files : Files) (directory : String) (arguments : List Bytes) : Except String Bool :=
  go (arguments.length + 1) arguments
where
  go : Nat → List Bytes → Except String Bool
    | 0, _ => .error "too many arguments"
    | _, [] => .ok false
    | _, [a] => .ok !a.isEmpty
    | fuel + 1, [a, b] =>
      if a = bytesOf "!" then do return !(← go fuel [b])
      else
        match unary? files directory (textOf a) b with
        | some holds => .ok holds
        | none => .error (textOf a ++ ": unexpected operator")
    | fuel + 1, a :: b :: rest =>
      let single : Option (Except String Bool) := match rest with
        | [c] => binary? (textOf b) a c
        | _ => none
      match single with
      | some answer => answer
      | none =>
        if let some (front, behind) := splitAtWord? (bytesOf "-o") (a :: b :: rest) then do
          return (← go fuel front) || (← go fuel behind)
        else if let some (front, behind) := splitAtWord? (bytesOf "-a") (a :: b :: rest) then do
          return (← go fuel front) && (← go fuel behind)
        else if a = bytesOf "!" then do return !(← go fuel (b :: rest))
        else if a = bytesOf "(" && rest.getLast? = some (bytesOf ")") then
          go fuel (b :: rest.dropLast)
        else .error (textOf a ++ ": unexpected operator")

end Upkeep.Shell.Condition
