import BoundedLog.Fault
import BoundedLog.Window

/-!
# Addresses of bytes

A byte of a window has two addresses: its position in the concatenation of all records, and the
index of its record together with its offset in that record. `Window.locate?` leads from the
first to the second and `Window.position` back. Empty records hold no byte, so no position leads
to one.
-/

namespace BoundedLog

/-- The byte at a position: the record that holds it, that record's index, and the offset in it. -/
structure Located where
  index : Nat
  record : Record
  offset : Nat
  deriving DecidableEq, Repr

/-- The byte at a position of the concatenation of records, the first of which has index
`index`. -/
def Located.among? (index : Nat) : List Record → Nat → Option Located
  | [], _ => none
  | record :: rest, position =>
    if position < record.length then some ⟨index, record, position⟩
    else among? (index + 1) rest (position - record.length)

namespace Window

/-- The byte at a position of the whole content. -/
def locate? (w : Window) (position : Nat) : Option Located :=
  if position < w.size then Located.among? 0 w.toList position else none

/-- The position of byte `offset` of record `index`. -/
def position (w : Window) (index offset : Nat) : Except RangeFault Nat :=
  if w.count ≤ index then .error (.noRecord index w.count)
  else match w.toList.drop index with
    | [] => .error (.noRecord index w.count)
    | record :: _ =>
      if record.length ≤ offset then .error (.noByte index offset record.length)
      else .ok ((w.toList.take index).flatten.length + offset)

end Window

end BoundedLog
