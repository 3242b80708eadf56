/-!
# Binary64 — the numbers with a fraction that data can hold

A finite double is a sign, a mantissa below 2^53 and a power of two. `Binary64.ofDecimal?` rounds
a decimal number to the nearest one, a tie to the even mantissa; `Binary64.shortest` goes back,
to the shortest decimal that rounds to the number. All arithmetic is exact on natural numbers.
-/

namespace Upkeep

/-- A finite double: `mantissa * 2 ^ exponent`, negated if `negative`. The mantissa is below
2^53, and at least 2^52 unless the exponent is the least one, -1074. -/
structure Binary64 where
  negative : Bool
  mantissa : Nat
  exponent : Int
  deriving DecidableEq, Repr

namespace Binary64

/-- The quotient rounded to the nearest natural number, a tie to the even one. -/
def roundQuotient (num den : Nat) : Nat :=
  let quotient := num / den
  let rest := num % den
  if 2 * rest < den then quotient
  else if den < 2 * rest then quotient + 1
  else if quotient % 2 = 0 then quotient else quotient + 1

/-- The fraction `num / den * base ^ power` as a numerator and a denominator. -/
def scaled (num den base : Nat) (power : Int) : Nat × Nat :=
  if 0 ≤ power then (num * base.pow power.toNat, den) else (num, den * base.pow (-power).toNat)

/-- The exponent of the double next to a positive fraction: its mantissa there has 53 bits, or
fewer at the least exponent. -/
def exponentFor (num den : Nat) : Int :=
  let guess : Int := (Nat.log2 num : Int) - Nat.log2 den - 52
  let (a, b) := scaled num den 2 (-guess)
  max (-1074) (if a < Nat.pow 2 52 * b then guess - 1 else guess)

/-- The double nearest to a fraction; `none` if it is beyond the largest one. -/
def ofFraction? (negative : Bool) (num den : Nat) : Option Binary64 :=
  if num = 0 then some ⟨negative, 0, -1074⟩
  else
    let exponent := exponentFor num den
    let (a, b) := scaled num den 2 (-exponent)
    let mantissa := roundQuotient a b
    let (mantissa, exponent) :=
      if mantissa = Nat.pow 2 53 then (Nat.pow 2 52, exponent + 1) else (mantissa, exponent)
    if 971 < exponent then none else some ⟨negative, mantissa, exponent⟩

/-- How many decimal digits a number has. -/
def decimalDigits (n : Nat) : Nat := (Nat.toDigits 10 n).length

/-- The double nearest to `digits * 10 ^ power`; `none` if it is beyond the largest one. Powers
that leave no doubt are not computed. -/
def ofDecimal? (negative : Bool) (digits : Nat) (power : Int) : Option Binary64 :=
  let magnitude := decimalDigits digits + power
  if digits = 0 || magnitude < -330 then some ⟨negative, 0, -1074⟩
  else if 310 < magnitude then none
  else
    let (num, den) := scaled digits 1 10 power
    ofFraction? negative num den

/-- A decimal number `digits * 10 ^ power`. -/
structure Decimal where
  digits : Nat
  power : Int
  deriving DecidableEq, Repr

/-- The fractions between which a positive double is the nearest one: its lower bound, itself
and its upper bound, all over one denominator. -/
def bounds (x : Binary64) : Nat × Nat × Nat × Nat :=
  let below := if x.mantissa = Nat.pow 2 52 && -1074 < x.exponent then 1 else 2
  let (unit, den) := scaled 1 4 2 x.exponent
  ((4 * x.mantissa - below) * unit, 4 * x.mantissa * unit, (4 * x.mantissa + 2) * unit, den)

/-- The decimal with the given power that rounds to the double, if one of its two neighbours
with that power does; the nearer one if both do. -/
def onGrid? (x : Binary64) (power : Int) : Option Nat :=
  let (low, value, high, den) := x.bounds
  -- everything in units of 10 ^ power
  let (unit, scale) := scaled 1 1 10 power
  let inside (n : Nat) : Bool :=
    let at_ := n * unit * den
    let (low, high) := (low * scale, high * scale)
    if x.mantissa % 2 = 0 then low ≤ at_ && at_ ≤ high else low < at_ && at_ < high
  let under := (value * scale) / (den * unit)
  let distance (n : Nat) : Nat :=
    let at_ := n * unit * den
    let value := value * scale
    if at_ ≤ value then value - at_ else at_ - value
  match inside under, inside (under + 1) with
  | true, true =>
    if distance under < distance (under + 1) then some under
    else if distance (under + 1) < distance under then some (under + 1)
    else if under % 2 = 0 then some under else some (under + 1)
  | true, false => some under
  | false, true => some (under + 1)
  | false, false => none

/-- The largest power of ten that is at most the double. -/
def leadingPower (x : Binary64) : Int :=
  let (_, value, _, den) := x.bounds
  if den ≤ value then decimalDigits (value / den) - 1
  else
    -- below one: count the places to the first digit
    let places := decimalDigits (den / value)
    if Nat.pow 10 (places - 1) * value < den then -(places : Int) else -(places - 1 : Int)

/-- The decimal with the fewest digits that rounds to the double, the nearest one of those. Up to
17 digits are tried; so many always suffice. -/
def shortest (x : Binary64) : Decimal :=
  if x.mantissa = 0 then ⟨0, 0⟩
  else
    let lead := x.leadingPower
    let found := (List.range 17).findSome? fun (count : Nat) =>
      let power := lead - (count : Int)
      match x.onGrid? power with
      | some 0 => none
      | some digits => some (⟨digits, power⟩ : Decimal)
      | none => none
    trimZeros 18 (found.getD ⟨0, 0⟩)
where
  /-- Takes zeros off the end of the digits. -/
  trimZeros : Nat → Decimal → Decimal
    | 0, d => d
    | fuel + 1, d =>
      if d.digits ≠ 0 ∧ d.digits % 10 = 0 then trimZeros fuel ⟨d.digits / 10, d.power + 1⟩ else d

/-- The digits of a number. -/
def digitChars (n : Nat) : List Char := Nat.toDigits 10 n

/-- The double as it is written: the shortest digits, positional with a fraction from 1e-5 to
below 1e16, and with an exponent beyond. -/
def render (x : Binary64) : String :=
  let d := x.shortest
  let digits := digitChars d.digits
  let point := (digits.length : Int) + d.power
  let body : List Char :=
    if d.digits = 0 then ['0', '.', '0']
    else if 0 ≤ d.power && point ≤ 16 then
      digits ++ List.replicate d.power.toNat '0' ++ ['.', '0']
    else if 0 < point && point ≤ 16 then
      digits.take point.toNat ++ ['.'] ++ digits.drop point.toNat
    else if -5 < point && point ≤ 0 then
      ['0', '.'] ++ List.replicate (-point).toNat '0' ++ digits
    else
      let fraction := match digits with
        | [d] => [d]
        | d :: rest => d :: '.' :: rest
        | [] => []
      fraction ++ ['e'] ++ (toString (point - 1)).toList
  String.ofList (if x.negative then '-' :: body else body)

end Binary64

end Upkeep
