/-!
# Durations and instants

A duration is a number of nanoseconds. It shows in the largest unit it fills, with the rest as a
decimal fraction. An instant is the duration since the start of 1970 and shows as a calendar date.
-/

namespace Upkeep

/-- A length of time. -/
structure Duration where
  nanos : Nat
  deriving DecidableEq, Repr, Inhabited

namespace Duration

/-- No time. -/
def zero : Duration := ⟨0⟩

/-- So many whole seconds. -/
def ofSecs (n : Nat) : Duration := ⟨n * 1000000000⟩

/-- So many milliseconds. -/
def ofMillis (n : Nat) : Duration := ⟨n * 1000000⟩

/-- The whole seconds of a duration. -/
def secs (d : Duration) : Nat := d.nanos / 1000000000

/-- The whole milliseconds of a duration. -/
def millis (d : Duration) : Nat := d.nanos / 1000000

/-- Both durations, one after the other. -/
def add (a b : Duration) : Duration := ⟨a.nanos + b.nanos⟩

instance : Add Duration := ⟨add⟩

instance : LE Duration := ⟨fun a b => a.nanos ≤ b.nanos⟩

instance (a b : Duration) : Decidable (a ≤ b) := inferInstanceAs (Decidable (a.nanos ≤ b.nanos))

@[simp] theorem nanos_add (a b : Duration) : (a + b).nanos = a.nanos + b.nanos := rfl

theorem le_iff {a b : Duration} : a ≤ b ↔ a.nanos ≤ b.nanos := Iff.rfl

/-- A number padded with zeros to so many digits. -/
def padded (width n : Nat) : List Char :=
  let digits := Nat.toDigits 10 n
  List.replicate (width - digits.length) '0' ++ digits

/-- A fraction of so many places, without the zeros at its end; nothing for zero. -/
def fraction (places n : Nat) : List Char :=
  let digits := ((padded places n).reverse.dropWhile (· = '0')).reverse
  if digits.isEmpty then [] else '.' :: digits

/-- The duration as messages show it: in seconds, milliseconds, microseconds or nanoseconds. -/
def render (d : Duration) : String :=
  let shown (unit places : Nat) (suffix : String) : String :=
    toString (d.nanos / unit) ++ String.ofList (fraction places (d.nanos % unit)) ++ suffix
  if 1000000000 ≤ d.nanos then shown 1000000000 9 "s"
  else if 1000000 ≤ d.nanos then shown 1000000 6 "ms"
  else if 1000 ≤ d.nanos then shown 1000 3 "µs"
  else shown 1 0 "ns"

end Duration

/-- A point in time: the duration since the start of 1970. -/
structure Instant where
  sinceEpoch : Duration
  deriving DecidableEq, Repr, Inhabited

namespace Instant

/-- Year, month and day of a number of days since the start of 1970. Years are counted from March
on, so that the day that leap years add is the last one. -/
def date (days : Nat) : Nat × Nat × Nat :=
  let shifted := days + 719468
  let era := shifted / 146097
  let dayOfEra := shifted % 146097
  let yearOfEra := (dayOfEra - dayOfEra / 1460 + dayOfEra / 36524 - dayOfEra / 146096) / 365
  let dayOfYear := dayOfEra - (365 * yearOfEra + yearOfEra / 4 - yearOfEra / 100)
  let fromMarch := (5 * dayOfYear + 2) / 153
  let day := dayOfYear - (153 * fromMarch + 2) / 5 + 1
  let month := if fromMarch < 10 then fromMarch + 3 else fromMarch - 9
  (yearOfEra + era * 400 + (if month ≤ 2 then 1 else 0), month, day)

/-- Number parts joined by a separator, each padded to its width. -/
def joined (separator : Char) (parts : List (Nat × Nat)) : List Char :=
  List.intercalate [separator] (parts.map fun (width, n) => Duration.padded width n)

/-- The day as `YYYY-MM-DD`. -/
def dayText (t : Instant) : List Char :=
  let (year, month, day) := date (t.sinceEpoch.secs / 86400)
  joined '-' [(4, year), (2, month), (2, day)]

/-- The time of day as `HH:MM:SS`. -/
def timeText (t : Instant) : List Char :=
  let secs := t.sinceEpoch.secs % 86400
  joined ':' [(2, secs / 3600), (2, secs / 60 % 60), (2, secs % 60)]

/-- Day and time with a blank between them. -/
def render (t : Instant) : String := String.ofList (t.dayText ++ [' '] ++ t.timeText)

/-- Day and time as an Internet timestamp in universal time, with as many groups of three decimal
places as the instant needs. -/
def timestamp (t : Instant) : String :=
  let nanos := t.sinceEpoch.nanos % 1000000000
  let places : List Char :=
    if nanos = 0 then []
    else if nanos % 1000000 = 0 then '.' :: Duration.padded 3 (nanos / 1000000)
    else if nanos % 1000 = 0 then '.' :: Duration.padded 6 (nanos / 1000)
    else '.' :: Duration.padded 9 nanos
  String.ofList (t.dayText ++ ['T'] ++ t.timeText ++ places ++ "+00:00".toList)

end Instant

end Upkeep
