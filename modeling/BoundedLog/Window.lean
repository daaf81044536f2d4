import BoundedLog.Bytes

/-!
# The window of the last records

A `Window` holds the last records that were appended to it, at most as many as it has slots. The
slots form a circle: `tail` is the slot of the oldest record, `head` the slot that the next
record goes to, and `full` tells a full circle from an empty one when the two coincide. The sum
of the lengths and the numbers of appended and evicted records are kept up to date along the way.

The records in order, oldest first, are `Window.toList`; all that is observed of a window is
about this list.
-/

namespace BoundedLog

/-- The last records appended, in a circle of slots. -/
structure Window where
  /-- The slots; one without a record is empty. -/
  slots : Array (Option Record)
  /-- The slot that the next record goes to. -/
  head : Nat
  /-- The slot of the oldest record. -/
  tail : Nat
  /-- Whether every slot holds a record. -/
  full : Bool
  /-- The sum of the lengths of the held records. -/
  size : Nat
  /-- How many records were appended since the window was made. -/
  appended : Nat
  /-- How many records were evicted since the window was made. -/
  evicted : Nat
  deriving DecidableEq, Repr

namespace Window

/-- The number of records that the server's log retains. -/
def standardCapacity : Nat := 10

/-- An empty window of `capacity` slots, or of one slot if `capacity` is zero. -/
def ofCapacity (capacity : Nat) : Window where
  slots := Array.replicate (max capacity 1) none
  head := 0
  tail := 0
  full := false
  size := 0
  appended := 0
  evicted := 0

/-- The number of records that the window retains. -/
def capacity (w : Window) : Nat := w.slots.size

/-- The number of records held. -/
def count (w : Window) : Nat :=
  if w.full then w.capacity else (w.head + w.capacity - w.tail) % w.capacity

/-- Whether no record is held. -/
def isEmpty (w : Window) : Bool := w.count == 0

/-- The slot of the record with `index` older records before it. -/
def slotOf (w : Window) (index : Nat) : Nat := (w.tail + index) % w.capacity

/-- The content of a slot. -/
def slot (w : Window) (i : Nat) : Option Record := w.slots.getD i none

/-- The record with `index` older records before it. -/
def get? (w : Window) (index : Nat) : Option Record :=
  if index < w.count then w.slot (w.slotOf index) else none

/-- The records, oldest first. -/
def toList (w : Window) : List Record :=
  (List.range w.count).filterMap fun index => w.slot (w.slotOf index)

/-- The concatenation of the records, oldest first. -/
def content (w : Window) : Bytes := w.toList.flatten

/-- A full window without its oldest record, and that record; any other window as it is. -/
def makeRoom (w : Window) : Window × Option Record :=
  if w.full then
    let oldest := w.slot w.tail
    ({ w with
        slots := w.slots.setIfInBounds w.tail none
        tail := (w.tail + 1) % w.capacity
        full := false
        size := w.size - (oldest.map List.length).getD 0
        evicted := w.evicted + if oldest.isSome then 1 else 0 }, oldest)
  else (w, none)

/-- A window that is not full, with a record put behind the newest one. -/
def put (w : Window) (record : Record) : Window :=
  let head := (w.head + 1) % w.capacity
  { w with
    slots := w.slots.setIfInBounds w.head (some record)
    head
    full := head == w.tail
    size := w.size + record.length
    appended := w.appended + 1 }

/-- Appends a record. A full window evicts its oldest record, which is handed back. -/
def append (w : Window) (record : Record) : Window × Option Record :=
  (w.makeRoom.1.put record, w.makeRoom.2)

/-- Drops every record; the numbers of appended and evicted records stay. -/
def clear (w : Window) : Window :=
  { w with
    slots := Array.replicate w.capacity none
    head := 0
    tail := 0
    full := false
    size := 0 }

end Window

end BoundedLog
