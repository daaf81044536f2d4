import BoundedLog.Bytes
import BoundedLog.Fault
import BoundedLog.Text.Blank
import BoundedLog.Text.Decimal
import BoundedLog.Text.Utf8

/-!
# Requests

A client sends lines. A line that begins with `SEEKTO:` asks for a place in the log, by the index
of a record and an offset in it, two decimal numbers with a comma between them and a newline
behind; if it is anything else behind `SEEKTO:`, it is malformed. Every other line is a record to
append.
-/

namespace BoundedLog

/-- What a line of a client asks for. -/
inductive Request
  /-- Reply from byte `offset` of record `index` on. -/
  | seek (index offset : Nat)
  /-- Append the line. -/
  | record (line : Bytes)
  deriving DecidableEq, Repr

namespace Request

/-- The beginning of a line that asks for a place. -/
def seekWord : Bytes := "SEEKTO:".toList.map fun c => c.toNat.toUInt8

/-- The bytes behind `front`, if the given bytes begin with it. -/
def behind? : (front bytes : Bytes) → Option Bytes
  | [], bytes => some bytes
  | _ :: _, [] => none
  | f :: front, b :: bytes => if f == b then behind? front bytes else none

/-- The number that digits write, if it fits a word. -/
def number? (digits : Bytes) : Option Nat := Text.decimal? Text.wordMax (digits.map (·.toNat))

/-- The index and the offset in what follows `seekWord`. -/
def arguments? (bytes : Bytes) : Option (Nat × Nat) :=
  if bytes.endsLine then
    match bytes.dropLast.span (· != 0x2C) with
    | (index, _ :: offset) => do return (← number? index, ← number? offset)
    | (_, []) => none
  else none

/-- What a line asks for. -/
def ofLine (line : Bytes) : Except ProtocolFault Request :=
  match behind? seekWord line with
  | none => .ok (.record line)
  | some rest =>
    match arguments? rest with
    | some (index, offset) => .ok (.seek index offset)
    | none => .error (.malformedSeek (String.ofList (Text.trimEnd (Text.Utf8.decodeLossy line))))

end Request

end BoundedLog
