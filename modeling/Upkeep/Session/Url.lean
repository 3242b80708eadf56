import Upkeep.Session.Address
import Upkeep.Text.Utf8

/-!
# Session urls — where a device is

A session url is `ssh://` or `telnet://`, a user if need be, a host and perhaps a port; what
follows them is passed over, and so is a password. Names of hosts are taken as they are written,
with all that is no printable ASCII escaped.
-/

namespace Upkeep

/-- The ways to reach a device. -/
inductive Protocol where
  | ssh
  | telnet
  deriving DecidableEq, Repr

/-- What a session url says. -/
structure SessionUrl where
  protocol : Protocol
  user : Option String
  host : String
  port : Option Nat
  deriving DecidableEq, Repr

namespace SessionUrl

/-- The text without control characters and spaces around it, and without line ends and tabs. -/
def cleaned (text : List Char) : List Char :=
  let blank (c : Char) : Bool := c.toNat ≤ 32
  let inner := ((text.dropWhile blank).reverse.dropWhile blank).reverse
  inner.filter fun c => c ≠ '\t' && c ≠ '\n' && c ≠ '\r'

/-- The value of a hexadecimal digit given as a byte. -/
def hexByte? (b : UInt8) : Option Nat := Address.hexDigit? (Char.ofNat b.toNat)

/-- The bytes with each percent sign and two digits replaced by the byte they stand for. -/
def unescape : Bytes → Bytes
  | [] => []
  | 37 :: high :: low :: rest =>
    match hexByte? high, hexByte? low with
    | some h, some l => (h * 16 + l).toUInt8 :: unescape rest
    | _, _ => 37 :: unescape (high :: low :: rest)
  | b :: rest => b :: unescape rest

/-- The user of the part before the last `@`: what stands before a colon, unescaped. -/
def user? (text : List Char) : Option String :=
  let name := text.takeWhile (· ≠ ':')
  (decodeUtf8? (unescape (encodeUtf8 name))).map String.ofList

/-- A character that no host can have. -/
def isForbidden (c : Char) : Bool := "\x00\t\n\r #/:<>?@[\\]^|".toList.contains c

/-- A byte of a host as it is written: control characters and what is not ASCII are escaped. -/
def escapeByte (b : UInt8) : List Char :=
  if b < 0x20 || 0x7F ≤ b then
    '%' :: (Nat.toDigits 16 (b.toNat / 16) ++ Nat.toDigits 16 (b.toNat % 16)).map Char.toUpper
  else [Char.ofNat b.toNat]

/-- The host that a text writes: an address between brackets, or a name. -/
def host? (text : List Char) : Option String :=
  match text with
  | '[' :: inner =>
    if inner.getLast? = some ']' then (Address.read? inner.dropLast).map Address.render else none
  | [] => none
  | text =>
    if text.any isForbidden then none
    else some (String.ofList ((encodeUtf8 text).flatMap escapeByte))

/-- Where the host ends: at a colon that is not between brackets. -/
def splitHost : Bool → List Char → List Char × List Char
  | _, [] => ([], [])
  | inside, c :: rest =>
    if c = ':' && !inside then ([], c :: rest)
    else
      let (host, after) := splitHost (c = '[' || (inside && c ≠ ']')) rest
      (c :: host, after)

/-- A port; digits may be missing. A backslash ends it. -/
def port? (text : List Char) : Option (Option Nat) :=
  let digits := text.takeWhile Char.isDigit
  let n := digits.foldl (fun n c => min 65536 (n * 10 + (c.toNat - 48))) 0
  match text.dropWhile Char.isDigit with
  | [] | '\\' :: _ =>
    if digits.isEmpty then some none else if n < 65536 then some (some n) else none
  | _ => none

/-- The place after the last `@`, and what stands before it, if there is one. -/
def splitUser (text : List Char) : List Char × List Char :=
  if text.contains '@' then
    let host := (text.reverse.takeWhile (· ≠ '@')).reverse
    (text.take (text.length - host.length - 1), host)
  else ([], text)

/-- The protocol of a scheme. -/
def protocol? (scheme : List Char) : Option Protocol :=
  match String.ofList (scheme.map Char.toLower) with
  | "ssh" => some .ssh
  | "telnet" => some .telnet
  | _ => none

/-- The session url that a text writes. -/
def read? (text : String) : Option SessionUrl := do
  let text := cleaned text.toList
  let scheme := text.takeWhile (· ≠ ':')
  let protocol ← protocol? scheme
  match text.drop scheme.length with
  | ':' :: '/' :: '/' :: rest =>
    let authority := rest.takeWhile fun c => c ≠ '/' && c ≠ '?' && c ≠ '#'
    let (userPart, place) := splitUser authority
    let (hostPart, behind) := splitHost false place
    let user ← user? userPart
    let host ← host? hostPart
    let port ←
      match behind with
      | [] => pure none
      | _ :: digits => port? digits
    return { protocol, user := if user.isEmpty then none else some user, host, port }
  | _ => none

/-- A hop as the option for jump hosts writes it: user, host and port. -/
def jump (url : SessionUrl) : String :=
  let host := if url.host.contains ':' then "[" ++ url.host ++ "]" else url.host
  (match url.user with | some user => user ++ "@" | none => "") ++ host ++
    (match url.port with | some port => ":" ++ toString port | none => "")

end SessionUrl

end Upkeep
