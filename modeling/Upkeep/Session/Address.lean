/-!
# Network addresses

An address has eight pieces of 16 bits. It is written in hexadecimal pieces between colons; two
colons stand for one run of zero pieces or more, and the last two pieces may be written as four
decimal numbers. `Address.read?` reads any such form and `Address.render` writes the shortest one.
-/

namespace Upkeep

/-- The pieces of an address. -/
structure Address where
  pieces : List Nat
  deriving DecidableEq, Repr

namespace Address

/-- The value of a hexadecimal digit. -/
def hexDigit? (c : Char) : Option Nat :=
  if c.isDigit then some (c.toNat - 48)
  else if 'a' ≤ c && c ≤ 'f' then some (c.toNat - 87)
  else if 'A' ≤ c && c ≤ 'F' then some (c.toNat - 55)
  else none

/-- A decimal number up to 255 without zeros before it. -/
def byte? (digits : List Char) : Option Nat :=
  match digits with
  | [] => none
  | ['0'] => some 0
  | '0' :: _ => none
  | digits =>
    if digits.all Char.isDigit then
      let n := digits.foldl (fun n c => min 256 (n * 10 + (c.toNat - 48))) 0
      if n < 256 then some n else none
    else none

/-- Two pieces written as four decimal numbers. -/
def dotted? (text : List Char) : Option (List Nat) :=
  match (text.splitOn '.').mapM byte? with
  | some [a, b, c, d] => some [a * 256 + b, c * 256 + d]
  | _ => none

/-- Reads pieces. `gap` is the number of pieces before the run of zeros, the first zero of it
included, once there is one. -/
def readPieces : Nat → List Nat → Option Nat → List Char → Option (List Nat × Option Nat)
  | 0, _, _, _ => none
  | _, pieces, gap, [] => some (pieces, gap)
  | fuel + 1, pieces, gap, c :: rest =>
    if pieces.length = 8 then none
    else if c = ':' then
      if gap.isSome then none else readPieces fuel (pieces ++ [0]) (some (pieces.length + 1)) rest
    else
      let digits := ((c :: rest).take 4).takeWhile fun c => (hexDigit? c).isSome
      let value := digits.foldl (fun n c => n * 16 + (hexDigit? c).getD 0) 0
      match (c :: rest).drop digits.length with
      | [] => readPieces fuel (pieces ++ [value]) gap []
      | '.' :: _ =>
        if digits.isEmpty || 6 < pieces.length then none
        else (dotted? (c :: rest)).map fun last => (pieces ++ last, gap)
      | ':' :: more => if more.isEmpty then none else readPieces fuel (pieces ++ [value]) gap more
      | _ => none

/-- The address that a text writes. -/
def read? (text : List Char) : Option Address := do
  let (pieces, gap) ←
    match text with
    | ':' :: ':' :: rest => readPieces (rest.length + 2) [0] (some 1) rest
    | [] | [_] | ':' :: _ => none
    | text => readPieces (text.length + 2) [] none text
  match gap with
  | some gap =>
    return ⟨pieces.take gap ++ List.replicate (8 - pieces.length) 0 ++ pieces.drop gap⟩
  | none => if pieces.length = 8 then return ⟨pieces⟩ else none

/-- The pieces between colons. -/
def joined (pieces : List Nat) : String :=
  ":".intercalate (pieces.map fun n => String.ofList (Nat.toDigits 16 n))

/-- The longest run of zeros among pieces: where it starts and how long it is. The first of several
is taken. -/
def zeroRun (pieces : List Nat) : Nat × Nat :=
  let runs := (List.range pieces.length).map fun start =>
    (start, ((pieces.drop start).takeWhile (· = 0)).length)
  runs.foldl (fun best run => if best.2 < run.2 then run else best) (0, 0)

/-- The address in its usual form: the longest run of at least two zero pieces is left out, and an
address that stands for an older one shows it. -/
def render (address : Address) : String :=
  match address.pieces with
  | [0, 0, 0, 0, 0, 0xffff, high, low] =>
    "::ffff:" ++ ".".intercalate
      ([high / 256, high % 256, low / 256, low % 256].map toString)
  | pieces =>
    let (start, length) := zeroRun pieces
    if 1 < length then joined (pieces.take start) ++ "::" ++ joined (pieces.drop (start + length))
    else joined pieces

end Address

end Upkeep
