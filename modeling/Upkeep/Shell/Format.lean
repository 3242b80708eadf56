import Upkeep.Shell.Arithmetic
import Upkeep.Text.Utf8

/-!
# Formats — what `printf` and `echo` make of their arguments

A format is text with escapes and directives. Every directive takes an argument, and a format that
takes any is used again while there are arguments left. An escape that means nothing stays as it
is written.
-/

namespace Upkeep.Shell.Format

/-- The byte of an escape's letter. -/
def letter? (b : UInt8) : Option UInt8 :=
  ([(0x5C, 0x5C), (0x61, 7), (0x62, 8), (0x66, 12), (0x6E, 10), (0x72, 13), (0x74, 9),
    (0x76, 11)] : List (UInt8 × UInt8)).lookup b

/-- Whether a byte is an octal digit. -/
def isOctal (b : UInt8) : Bool := 0x30 ≤ b && b ≤ 0x37

/-- The byte of octal digits, at most three of them, and how many there are. -/
def octal (text : Bytes) : UInt8 × Nat :=
  let digits := (text.take 3).takeWhile isOctal
  ((digits.foldl (fun (n : Nat) b => n * 8 + (b.toNat - 0x30)) 0).toUInt8, digits.length)

/-- What the text behind a backslash stands for, and how many bytes of it are taken. -/
def escape (text : Bytes) : Bytes × Nat :=
  match text with
  | [] => ([0x5C], 0)
  | b :: _ =>
    if isOctal b then
      let (byte, n) := octal text
      ([byte], n)
    else
      match letter? b with
      | some byte => ([byte], 1)
      | none => ([0x5C], 0)

/-- A text with its escapes replaced, and whether an escape has said to stop. In an argument, the
digits of an octal escape stand behind a zero. -/
def unescape (text : Bytes) : Bytes × Bool := go text.length text
where
  go : Nat → Bytes → Bytes × Bool
    | _ + 1, 0x5C :: 0x63 :: _ => ([], true)
    | fuel + 1, 0x5C :: rest =>
      let rest := match rest with
        | 0x30 :: b :: more => if isOctal b then b :: more else rest
        | _ => rest
      let (bytes, n) := escape rest
      let (later, stopped) := go fuel (rest.drop n)
      (bytes ++ later, stopped)
    | fuel + 1, b :: rest =>
      let (later, stopped) := go fuel rest
      (b :: later, stopped)
    | _, _ => ([], false)

/-- How a directive prints. -/
structure Directive where
  left : Bool := false
  plus : Bool := false
  blank : Bool := false
  zero : Bool := false
  alternate : Bool := false
  width : Nat := 0
  precision : Option Nat := none
  deriving DecidableEq, Repr

/-- A text filled up to the width. -/
def Directive.pad (d : Directive) (text : Bytes) : Bytes :=
  let fill := List.replicate (d.width - text.length) (0x20 : UInt8)
  if d.left then text ++ fill else fill ++ text

/-- A text cut to the precision. -/
def Directive.string (d : Directive) (text : Bytes) : Bytes :=
  d.pad (d.precision.elim text text.take)

/-- A number in a base, behind its sign or mark. -/
def Directive.number (d : Directive) (mark : Bytes) (base n : Nat) (upper : Bool) : Bytes :=
  let digits := (Nat.toDigits base n).map fun c => if upper then c.toUpper else c
  let digits := (if d.precision = some 0 && n = 0 then [] else digits).map Char.toUInt8
  let digits := List.replicate (d.precision.getD 0 - digits.length) 0x30 ++ digits
  if d.zero && !d.left && d.precision.isNone then
    mark ++ List.replicate (d.width - mark.length - digits.length) 0x30 ++ digits
  else d.pad (mark ++ digits)

/-- Reads the flags of a directive. -/
def readFlags : Directive → Bytes → Directive × Bytes
  | d, b :: rest =>
    if b = 0x2D then readFlags { d with left := true } rest
    else if b = 0x2B then readFlags { d with plus := true } rest
    else if b = 0x20 then readFlags { d with blank := true } rest
    else if b = 0x30 then readFlags { d with zero := true } rest
    else if b = 0x23 then readFlags { d with alternate := true } rest
    else (d, b :: rest)
  | d, [] => (d, [])

/-- What a format has come to: the text, the arguments that are left, whether any was taken,
whether an escape has stopped it, and complaints. -/
structure Progress where
  text : Bytes := []
  arguments : List Bytes
  took : Bool := false
  stopped : Bool := false
  /-- Whether a directive was refused, which stops it too. -/
  refused : Bool := false
  complaints : List String := []

namespace Progress

/-- With more text. -/
def add (p : Progress) (bytes : Bytes) : Progress := { p with text := p.text ++ bytes }

/-- Takes an argument, which may be missing. -/
def takeArgument (p : Progress) : Option Bytes × Progress :=
  (p.arguments.head?, { p with arguments := p.arguments.drop 1, took := true })

/-- Takes a number. A text that is none counts as far as it is one, with a complaint. -/
def takeNumber (p : Progress) : Int × Progress :=
  match p.takeArgument with
  | (none, p) => (0, p)
  | (some (0x27 :: b :: _), p) | (some (0x22 :: b :: _), p) => (b.toNat, p)
  | (some bytes, p) =>
    let text := decodeLossy bytes
    let (n, found, rest) := Arithmetic.leadingNumber text
    let shown := String.ofList text
    if rest.isEmpty then (n, p)
    else
      let complaint :=
        if found then shown ++ ": not completely converted"
        else shown ++ ": expected numeric value"
      (n, { p with complaints := p.complaints ++ [complaint] })

/-- Takes a count of the format: a number there, or an argument for a star. -/
def takeCount (p : Progress) (format : Bytes) : Option Int × Bytes × Progress :=
  match format with
  | 0x2A :: rest =>
    let (n, p) := p.takeNumber
    (some n, rest, p)
  | _ =>
    let digits := format.takeWhile fun b => 0x30 ≤ b && b ≤ 0x39
    let value : Nat := digits.foldl (fun n b => n * 10 + (b.toNat - 0x30)) 0
    (if digits.isEmpty then none else some value, format.drop digits.length, p)

/-- Prints what a conversion makes of the next argument; nothing if there is no such
conversion. -/
def convert (p : Progress) (d : Directive) (conversion : Char) : Option Progress :=
  let unsigned (base : Nat) (mark : Bytes) (upper : Bool) : Progress :=
    let (n, p) := p.takeNumber
    let n := (n.emod (Int.pow 2 64)).toNat
    p.add (d.number (if d.alternate && n ≠ 0 then mark else []) base n upper)
  match conversion with
  | 'd' | 'i' =>
    let (n, p) := p.takeNumber
    let mark : Bytes :=
      if n < 0 then [0x2D] else if d.plus then [0x2B] else if d.blank then [0x20] else []
    some (p.add (d.number mark 10 n.natAbs false))
  | 'u' => some (unsigned 10 [] false)
  | 'o' => some (unsigned 8 [0x30] false)
  | 'x' => some (unsigned 16 [0x30, 0x78] false)
  | 'X' => some (unsigned 16 [0x30, 0x58] true)
  | 's' =>
    let (text, p) := p.takeArgument
    some (p.add (d.string (text.getD [])))
  | 'c' =>
    let (text, p) := p.takeArgument
    some (p.add (d.pad [(text.getD []).headD 0]))
  | 'b' =>
    let (text, p) := p.takeArgument
    let (text, stopped) := unescape (text.getD [])
    some { p.add (d.string text) with stopped }
  | _ => none

/-- Reads a directive behind its percent sign and prints what it says. -/
def directive (p : Progress) (format : Bytes) : Progress × Bytes :=
  let (d, rest) := readFlags {} format
  let (width, rest, p) := p.takeCount rest
  let d := { d with
    left := d.left || width.any (· < 0), width := (width.getD 0).natAbs }
  let (d, rest, p) := match rest with
    | 0x2E :: rest =>
      let (precision, rest, p) := p.takeCount rest
      ({ d with precision := some (precision.getD 0).toNat }, rest, p)
    | _ => (d, rest, p)
  let refused (rest : Bytes) : Progress × Bytes :=
    let shown := String.ofList (decodeLossy (format.take (format.length - rest.length)))
    let complaint := "%" ++ shown ++ ": invalid directive"
    ({ p with stopped := true, refused := true, complaints := p.complaints ++ [complaint] }, [])
  match rest with
  | [] => refused []
  | b :: rest =>
    match p.convert d (Char.ofNat b.toNat) with
    | some p => (p, rest)
    | none => refused rest

/-- Goes once through a format. -/
def pass : Nat → Progress → Bytes → Progress
  | 0, p, _ => p
  | _, p, [] => p
  | fuel + 1, p, b :: rest =>
    if p.stopped then p
    else if b = 0x5C then
      let (bytes, n) := escape rest
      pass fuel (p.add bytes) (rest.drop n)
    else if b = 0x25 then
      match rest with
      | 0x25 :: rest => pass fuel (p.add [0x25]) rest
      | _ =>
        let (p, rest) := p.directive rest
        pass fuel p rest
    else pass fuel (p.add [b]) rest

end Progress

/-- What a format makes of arguments. It takes one of them at least each time it is used again. -/
def apply (format : Bytes) (arguments : List Bytes) : Progress :=
  go (arguments.length + 1) { arguments }
where
  go : Nat → Progress → Progress
    | 0, p => p
    | fuel + 1, p =>
      let p := { p with took := false }.pass (format.length + 1) format
      if p.arguments.isEmpty || !p.took || p.stopped then p else go fuel p

/-- The text of `echo`. -/
def echo (arguments : List Bytes) : Bytes :=
  let (newline, arguments) := match arguments with
    | [0x2D, 0x6E] :: rest => (false, rest)
    | _ => (true, arguments)
  let (text, stopped) := unescape (List.intercalate [0x20] arguments)
  text ++ (if newline && !stopped then [0x0A] else [])

end Upkeep.Shell.Format
