/-!
# Bytes and characters

Text arrives as bytes. `decodeUtf8` reads well-formed UTF-8 only; `decodeLossy` reads anything
and shows each longest ill-formed piece as one replacement character. Both follow the table of
well-formed sequences: the second byte of a sequence is confined by the first one, the others
are plain continuation bytes.
-/

namespace Upkeep

/-- Bytes, first one first. -/
abbrev Bytes := List UInt8

/-- The character that stands for what cannot be decoded. -/
def replacementChar : Char := '\uFFFD'

/-- Whether a byte goes on with a character that has begun. -/
def continues (b : UInt8) : Bool := 0x80 ≤ b.toNat && b.toNat ≤ 0xBF

/-- What a first byte announces: how many bytes follow, the bits it carries itself, and the
range of the byte right after it. -/
def leadByte (b : UInt8) : Option (Nat × Nat × UInt8 × UInt8) :=
  if b < 0x80 then some (0, b.toNat, 0x80, 0xBF)
  else if 0xC2 ≤ b && b ≤ 0xDF then some (1, b.toNat - 0xC0, 0x80, 0xBF)
  else if b = 0xE0 then some (2, 0, 0xA0, 0xBF)
  else if b = 0xED then some (2, 0xD, 0x80, 0x9F)
  else if 0xE1 ≤ b && b ≤ 0xEF then some (2, b.toNat - 0xE0, 0x80, 0xBF)
  else if b = 0xF0 then some (3, 0, 0x90, 0xBF)
  else if 0xF1 ≤ b && b ≤ 0xF3 then some (3, b.toNat - 0xF0, 0x80, 0xBF)
  else if b = 0xF4 then some (3, 4, 0x80, 0x8F)
  else none

/-- Reads the `count` bytes that follow a first byte: the code point they complete, or `none`
at the first one that does not fit. The rest starts behind the bytes that fitted. -/
def tailBytes : Nat → Nat → UInt8 → UInt8 → Bytes → Option Nat × Bytes
  | 0, code, _, _, bytes => (some code, bytes)
  | _ + 1, _, _, _, [] => (none, [])
  | count + 1, code, low, high, b :: rest =>
    if low ≤ b && b ≤ high then tailBytes count (code * 64 + (b.toNat - 0x80)) 0x80 0xBF rest
    else (none, b :: rest)

theorem length_tailBytes_le (count code : Nat) (low high : UInt8) (bytes : Bytes) :
    (tailBytes count code low high bytes).2.length ≤ bytes.length := by
  induction count generalizing code low high bytes with
  | zero => simp [tailBytes]
  | succ count ih =>
    cases bytes with
    | nil => simp [tailBytes]
    | cons b rest =>
      simp only [tailBytes]
      split
      · exact Nat.le_trans (ih _ _ _ _) (by simp)
      · simp

/-- The first character of the bytes, `none` where a longest ill-formed piece stands, and the
bytes behind it. -/
def firstChar (b : UInt8) (rest : Bytes) : Option Char × Bytes :=
  match leadByte b with
  | none => (none, rest)
  | some (count, code, low, high) =>
    match tailBytes count code low high rest with
    | (code, after) => (code.map Char.ofNat, after)

theorem length_firstChar_le (b : UInt8) (rest : Bytes) :
    (firstChar b rest).2.length ≤ rest.length := by
  unfold firstChar
  split
  · simp
  · exact length_tailBytes_le _ _ _ _ _

/-- The bytes read character by character; `none` stands for an ill-formed piece. -/
def decodeSteps : Bytes → List (Option Char)
  | [] => []
  | b :: rest =>
    have := length_firstChar_le b rest
    (firstChar b rest).1 :: decodeSteps (firstChar b rest).2
termination_by bytes => bytes.length
decreasing_by simp; omega

/-- The text of the bytes, with a replacement character for each ill-formed piece. -/
def decodeLossy (bytes : Bytes) : List Char :=
  (decodeSteps bytes).map (·.getD replacementChar)

/-- The text of the bytes, if they are well-formed. -/
def decodeUtf8? (bytes : Bytes) : Option (List Char) := (decodeSteps bytes).mapM id

/-- The bytes of a character. -/
def encodeChar (c : Char) : Bytes := String.utf8EncodeChar c

/-- The bytes of a text. -/
def encodeUtf8 (text : List Char) : Bytes := text.flatMap encodeChar

end Upkeep
