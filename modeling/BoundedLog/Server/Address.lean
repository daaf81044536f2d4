import BoundedLog.IoError
import BoundedLog.Text.Decimal

/-!
# Addresses

A server is reached at an `Endpoint`: a host on the network and the number of one of its services.
An endpoint is written as the host, a colon and the number; a host is written as four decimal
numbers between periods, or as eight hexadecimal groups between colons, in brackets, of which a
run of zeros may be left out.

`Address.ofText` takes the name of a host as well, and leaves it to the network what the name
stands for. `Endpoint.text` writes an endpoint in the shortest way.
-/

namespace BoundedLog

/-- A host on the network. -/
inductive Host
  /-- Four bytes. -/
  | short (bytes : List Nat)
  /-- Eight groups of two bytes, and the zone in which they count. -/
  | long (groups : List Nat) (zone : Nat)
  deriving DecidableEq, Repr

/-- A service of a host. -/
structure Endpoint where
  host : Host
  service : Nat
  deriving DecidableEq, Repr

/-- Where a server is to be reached. -/
inductive Address
  | endpoint (endpoint : Endpoint)
  /-- A service of the host of this name. -/
  | named (host : String) (service : Nat)
  deriving DecidableEq, Repr

/-- The pieces of a text between the places where a character stands. -/
def Address.pieces (separator : Char) : List Char → List (List Char)
  | [] => [[]]
  | c :: rest =>
    if c = separator then [] :: pieces separator rest
    else match pieces separator rest with
      | [] => [[c]]
      | piece :: others => (c :: piece) :: others

/-- The number of a service, which fits sixteen bits. -/
def Address.service? (digits : List Char) : Option Nat :=
  Text.decimal? 65535 (digits.map Char.toNat)

namespace Host

/-! ### Reading -/

/-- A byte in decimal digits, without zeros in front. -/
def byte? (digits : List Char) : Option Nat :=
  match digits with
  | '0' :: _ :: _ => none
  | _ => if digits.length ≤ 3 then Text.decimal? 255 (digits.map Char.toNat) else none

/-- The four bytes that a text writes. -/
def bytes? (text : List Char) : Option (List Nat) := do
  let bytes ← (Address.pieces '.' text).mapM byte?
  if bytes.length = 4 then some bytes else none

/-- The value of a hexadecimal digit. -/
def hexDigit? (c : Char) : Option Nat :=
  if '0' ≤ c ∧ c ≤ '9' then some (c.toNat - '0'.toNat)
  else if 'a' ≤ c ∧ c ≤ 'f' then some (c.toNat - 'a'.toNat + 10)
  else if 'A' ≤ c ∧ c ≤ 'F' then some (c.toNat - 'A'.toNat + 10)
  else none

/-- A group in hexadecimal digits. -/
def group? (digits : List Char) : Option Nat :=
  if digits.isEmpty || 4 < digits.length then none
  else return (← digits.mapM hexDigit?).foldl (fun value d => value * 16 + d) 0

/-- The groups of pieces between colons. The last one may be four bytes, which are two groups. -/
def groups? (bytesMayEnd : Bool) : List (List Char) → Option (List Nat)
  | [] => some []
  | [last] =>
    match group? last with
    | some group => some [group]
    | none => do
      match ← bytes? last with
      | [a, b, c, d] => if bytesMayEnd then some [a * 256 + b, c * 256 + d] else none
      | _ => none
  | piece :: others => return (← group? piece) :: (← groups? bytesMayEnd others)

/-- The groups of a text without a gap. -/
def side? (bytesMayEnd : Bool) (text : List Char) : Option (List Nat) :=
  if text.isEmpty then some [] else groups? bytesMayEnd (Address.pieces ':' text)

/-- The text in front of the first two colons in a row, and the text behind them. -/
def gap? : List Char → Option (List Char × List Char)
  | ':' :: ':' :: rest => some ([], rest)
  | c :: rest => (gap? rest).map fun (front, back) => (c :: front, back)
  | [] => none

/-- The eight groups that a text writes. Two colons stand for at least one group of zeros. -/
def longGroups? (text : List Char) : Option (List Nat) :=
  match gap? text with
  | none => do
    let groups ← side? true text
    if groups.length = 8 then some groups else none
  | some (front, back) => do
    let front ← side? false front
    let back ← side? true back
    if front.length + back.length ≤ 7 then
      some (front ++ List.replicate (8 - front.length - back.length) 0 ++ back)
    else none

/-- The host between brackets, which may have a zone behind a percent sign. -/
def bracketed? (text : List Char) : Option Host :=
  match text.span (· != '%') with
  | (groups, []) => return .long (← longGroups? groups) 0
  | (groups, _ :: zone) =>
    return .long (← longGroups? groups) (← Text.decimal? 0xFFFFFFFF (zone.map Char.toNat))

/-! ### Writing -/

/-- A group in hexadecimal digits, without zeros in front. -/
def groupText (group : Nat) : String := String.ofList (Nat.toDigits 16 group)

/-- Groups between colons. -/
def groupsText (groups : List Nat) : String := ":".intercalate (groups.map groupText)

/-- Bytes between periods. -/
def bytesText (bytes : List Nat) : String := ".".intercalate (bytes.map toString)

/-- Where the first of the longest runs of zeros begins, and its length. -/
def longestZeros (groups : List Nat) : Nat × Nat :=
  (List.range groups.length).foldl (fun best start =>
    let length := ((groups.drop start).takeWhile (· == 0)).length
    if best.2 < length then (start, length) else best) (0, 0)

/-- Eight groups in the shortest way. Those that hold an address of four bytes show it. -/
def longText (groups : List Nat) : String :=
  match groups with
  | [0, 0, 0, 0, 0, 0xffff, high, low] =>
    "::ffff:" ++ bytesText [high / 256, high % 256, low / 256, low % 256]
  | _ =>
    let (start, length) := longestZeros groups
    if length ≤ 1 then groupsText groups
    else groupsText (groups.take start) ++ "::" ++ groupsText (groups.drop (start + length))

/-- The text of a host, without its zone. -/
def text : Host → String
  | short bytes => bytesText bytes
  | long groups _ => longText groups

/-- The host that a text writes, without brackets. -/
def ofText? (text : String) : Option Host :=
  let cs := text.toList
  match bytes? cs with
  | some bytes => some (.short bytes)
  | none => (longGroups? cs).map (.long · 0)

end Host

namespace Endpoint

/-- The endpoint that a text writes. -/
def ofText? (text : String) : Option Endpoint :=
  match text.toList with
  | '[' :: rest =>
    match rest.span (· != ']') with
    | (host, ']' :: ':' :: service) =>
      return ⟨← Host.bracketed? host, ← Address.service? service⟩
    | _ => none
  | cs =>
    match cs.span (· != ':') with
    | (host, ':' :: service) =>
      return ⟨.short (← Host.bytes? host), ← Address.service? service⟩
    | _ => none

/-- The text of an endpoint. -/
def text (e : Endpoint) : String :=
  match e.host with
  | .short _ => e.host.text ++ ":" ++ toString e.service
  | .long _ zone =>
    let zoneText := if zone = 0 then "" else "%" ++ toString zone
    "[" ++ e.host.text ++ zoneText ++ "]:" ++ toString e.service

end Endpoint

namespace Address

/-- The text in front of the last colon, and the text behind it. -/
def lastColon? (cs : List Char) : Option (List Char × List Char) :=
  match cs.reverse.span (· != ':') with
  | (_, []) => none
  | (behind, _ :: front) => some (front.reverse, behind.reverse)

/-- The address that a text writes: an endpoint, or the name of a host and the number of a
service, which may have a plus sign in front. -/
def ofText (text : String) : Except IoError Address :=
  match Endpoint.ofText? text with
  | some e => .ok (.endpoint e)
  | none =>
    match lastColon? text.toList with
    | none => .error (.because .invalidInput "invalid socket address")
    | some (host, service) =>
      match Text.signedDecimal? 65535 (service.map Char.toNat) with
      | none => .error (.because .invalidInput "invalid port value")
      | some service =>
        if host.contains '\x00' then .error .nullInPath
        else .ok (.named (String.ofList host) service)

end Address

end BoundedLog
