import Upkeep.Host.Files

/-!
# Shell arithmetic

Expressions over whole numbers of 64 bits, with the operators of C and their precedence. A name
stands for the number in the variable of that name. An expression is evaluated while it is read:
`level n` reads the operators that bind as `operators` says at place `n` or tighter.
-/

namespace Upkeep.Shell.Arithmetic

/-- A number brought into 64 bits. -/
def wrap (n : Int) : Int := n.bmod (Nat.pow 2 64)

/-- The number of a truth value. -/
def ofBool (b : Bool) : Int := if b then 1 else 0

/-- What an operator makes of its operands. -/
abbrev Operator := Int → Int → Except String Int

/-- An operator that never fails. -/
def total (f : Int → Int → Int) : Operator := fun a b => .ok (wrap (f a b))

/-- An operator that refuses zero on its right. -/
def dividing (f : Int → Int → Int) : Operator := fun a b =>
  if b = 0 then .error "division by zero" else .ok (wrap (f a b))

/-- An operator on the 64 bits of the operands. -/
def bitwise (f : UInt64 → UInt64 → UInt64) : Operator := fun a b =>
  let word (n : Int) : UInt64 := UInt64.ofNat (n.emod (Int.pow 2 64)).toNat
  .ok (wrap (f (word a) (word b)).toNat)

/-- The operators, from those that bind loosest on. Of two at one level that start alike, the
longer one stands first. -/
def operators : List (List (String × Operator)) :=
  [[("||", total fun a b => ofBool (a ≠ 0 || b ≠ 0))],
    [("&&", total fun a b => ofBool (a ≠ 0 && b ≠ 0))],
    [("|", bitwise (· ||| ·))],
    [("^", bitwise (· ^^^ ·))],
    [("&", bitwise (· &&& ·))],
    [("==", total fun a b => ofBool (a = b)), ("!=", total fun a b => ofBool (a ≠ b))],
    [("<=", total fun a b => ofBool (a ≤ b)), (">=", total fun a b => ofBool (b ≤ a)),
      ("<", total fun a b => ofBool (a < b)), (">", total fun a b => ofBool (b < a))],
    [("<<", total fun a b => a * Int.pow 2 (b.emod 64).toNat),
      (">>", total fun a b => a / Int.pow 2 (b.emod 64).toNat)],
    [("+", total (· + ·)), ("-", total (· - ·))],
    [("*", total (· * ·)), ("/", dividing Int.tdiv), ("%", dividing Int.tmod)]]

/-- All operators that are longer than one character. -/
def longOperators : List String := ["||", "&&", "==", "!=", "<=", ">=", "<<", ">>"]

/-- The text behind blanks. -/
def trimmed (text : List Char) : List Char :=
  text.dropWhile fun c => c = ' ' || c = '\t' || c = '\n'

/-- The operator of a level that comes next. A sign that starts a longer operator is none. -/
def operator? (level : List (String × Operator)) (text : List Char) :
    Option (Operator × List Char) :=
  let long := longOperators.find? (·.toList.isPrefixOf text)
  (level.find? fun (sign, _) => sign.toList.isPrefixOf text && long.all (· = sign)).map
    fun (sign, f) => (f, text.drop sign.length)

/-- The digits of a number, with its base. -/
def numeral (text : List Char) : Nat × List Char :=
  match text with
  | '0' :: 'x' :: rest | '0' :: 'X' :: rest => (16, rest)
  | '0' :: rest => (8, '0' :: rest)
  | _ => (10, text)

/-- The value of a digit. -/
def digit? (base : Nat) (c : Char) : Option Nat :=
  let value :=
    if c.isDigit then c.toNat - '0'.toNat
    else if 'a' ≤ c && c ≤ 'f' then c.toNat - 'a'.toNat + 10
    else if 'A' ≤ c && c ≤ 'F' then c.toNat - 'A'.toNat + 10
    else base
  if value < base then some value else none

/-- Reads an unsigned number; nothing if none comes next. -/
def number? (text : List Char) : Option (Int × List Char) :=
  let (base, digits) := numeral text
  let taken := digits.takeWhile fun c => (digit? base c).isSome
  if taken.isEmpty then none
  else
    let value := taken.foldl (fun n c => n * base + (digit? base c).getD 0) 0
    some (value, digits.drop taken.length)

/-- The number in a text: blanks, a sign and digits; zero where there is none. Also says whether
there was one, and what is left behind it. -/
def leadingNumber (text : List Char) : Int × Bool × List Char :=
  let text := trimmed text
  let (negative, digits) := match text with
    | '-' :: rest => (true, rest)
    | '+' :: rest => (false, rest)
    | _ => (false, text)
  match number? digits with
  | some (n, rest) => (if negative then -n else n, true, rest)
  | none => (0, false, text)

mutual

/-- Reads the operators from a level on. -/
def level (lookup : String → Int) : Nat → List (List (String × Operator)) → List Char →
    Except String (Int × List Char)
  | 0, _, _ => .error "expression too deep"
  | fuel + 1, [], text => operand lookup fuel (trimmed text)
  | fuel + 1, here :: tighter, text => do
    let (first, rest) ← level lookup fuel tighter text
    chain lookup fuel here tighter first rest

/-- Reads the operators of one level behind their first operand; they group to the left. -/
def chain (lookup : String → Int) : Nat → List (String × Operator) →
    List (List (String × Operator)) → Int → List Char → Except String (Int × List Char)
  | 0, _, _, _, _ => .error "expression too deep"
  | fuel + 1, here, tighter, first, text =>
    match operator? here (trimmed text) with
    | none => .ok (first, text)
    | some (f, rest) => do
      let (second, rest) ← level lookup fuel tighter rest
      chain lookup fuel here tighter (← f first second) rest

/-- Reads an operand. -/
def operand (lookup : String → Int) : Nat → List Char → Except String (Int × List Char)
  | 0, _ => .error "expression too deep"
  | fuel + 1, text =>
    match text with
    | '(' :: rest => do
      let (value, rest) ← level lookup fuel operators rest
      match trimmed rest with
      | ')' :: rest => .ok (value, rest)
      | _ => .error "expecting ')'"
    | '-' :: rest => do
      let (value, rest) ← operand lookup fuel (trimmed rest)
      .ok (wrap (-value), rest)
    | '+' :: rest => operand lookup fuel (trimmed rest)
    | '!' :: rest => do
      let (value, rest) ← operand lookup fuel (trimmed rest)
      .ok (ofBool (value = 0), rest)
    | '~' :: rest => do
      let (value, rest) ← operand lookup fuel (trimmed rest)
      .ok (wrap (-value - 1), rest)
    | _ =>
      match number? text with
      | some (value, rest) => .ok (wrap value, rest)
      | none =>
        let name := text.takeWhile fun c => c.isAlphanum || c = '_'
        if name.isEmpty then .error "expecting primary"
        else .ok (lookup (String.ofList name), text.drop name.length)

end

/-- The value of an expression; an empty one is zero. Every level of the grammar takes its turn at
every character at most, which is the fuel. -/
def evaluate (lookup : String → Int) (text : List Char) : Except String Int := do
  if (trimmed text).isEmpty then return 0
  let (value, rest) ← level lookup (16 * (text.length + 1)) operators text
  if (trimmed rest).isEmpty then return value else .error "expecting EOF"

end Upkeep.Shell.Arithmetic
