import BoundedLog.Replica
import BoundedLog.Window.Address

/-!
# The shared log

A `SharedLog` is what all writers and readers of a log have in common: the window of the last
records and, if the log is kept in a file as well, its replica. Every operation is one step: at
any instant at most one of them is at work on the log.

A writer collects bytes in a `Draft` of its own. As soon as the draft ends with a newline it
becomes a record, so a record may hold several lines but never ends inside one. There is always
memory for more bytes: that it may run short is left out. A replica that cannot be brought up to
date is left as it is; the log itself does not depend on it.
-/

namespace BoundedLog

/-- The bytes of one writer that do not make up a record yet. -/
structure Draft where
  bytes : Bytes := []
  deriving DecidableEq, Repr

/-- What is known about a log at one instant. -/
structure Stats where
  count : Nat
  capacity : Nat
  size : Nat
  appended : Nat
  evicted : Nat
  replicated : Bool
  deriving DecidableEq, Repr

/-- The window of the last records, and the replica of it, if there is one. -/
structure SharedLog where
  window : Window
  replica : Option Replica := none
  deriving DecidableEq, Repr

namespace SharedLog

/-- An empty log that retains at most `capacity` records. -/
def ofCapacity (capacity : Nat) : SharedLog := { window := .ofCapacity capacity }

/-- An empty log with a replica. -/
def withReplica (capacity : Nat) (replica : Replica) : SharedLog :=
  { window := .ofCapacity capacity, replica := some replica }

/-- Brings the replica up to date, as far as possible. -/
def publish (log : SharedLog) : StateM Disk Unit := do
  match log.replica with
  | none => pure ()
  | some replica =>
    let _ ← replica.update log.window.content

/-- Appends a record and brings the replica up to date. -/
def commit (log : SharedLog) (record : Record) : StateM Disk SharedLog := do
  let log := { log with window := (log.window.append record).1 }
  log.publish
  return log

/-- Adds bytes to a draft, and commits it as a record when it then ends with a newline. How many
bytes were accepted is handed back with the log and the draft. -/
def accept (log : SharedLog) (draft : Draft) (bytes : Bytes) :
    StateM Disk (Nat × SharedLog × Draft) := do
  if bytes.isEmpty then return (0, log, draft)
  else
    let pending := draft.bytes ++ bytes
    if pending.endsLine then return (bytes.length, ← log.commit pending, {})
    else return (bytes.length, log, ⟨pending⟩)

/-- Adds bytes to a draft as `accept` does, for a writer that does not ask how many bytes were
accepted. -/
def write (log : SharedLog) (draft : Draft) (bytes : Bytes) : StateM Disk (SharedLog × Draft) := do
  let (_, log, draft) ← log.accept draft bytes
  return (log, draft)

/-- At most `limit` bytes from a position on, all of one record. -/
def read (log : SharedLog) (position limit : Nat) : Bytes :=
  match log.window.locate? position with
  | none => []
  | some located => (located.record.drop located.offset).take limit

theorem length_read_le (log : SharedLog) (position limit : Nat) :
  (log.read position limit).length ≤ limit
  := by
  unfold read
  split
  · simp
  · simp only [List.length_take]
    omega

/-- The position of a byte of a record. -/
def seek (log : SharedLog) (index offset : Nat) : Except RangeFault Nat :=
  log.window.position index offset

/-- All records, oldest first, one after the other. -/
def snapshot (log : SharedLog) : Bytes := log.window.content

/-- The snapshot from a position on. -/
def readFrom (log : SharedLog) (position : Nat) : Bytes := log.snapshot.drop position

/-- What is known about the log. -/
def stats (log : SharedLog) : Stats where
  count := log.window.count
  capacity := log.window.capacity
  size := log.window.size
  appended := log.window.appended
  evicted := log.window.evicted
  replicated := log.replica.isSome

/-- Drops all records and gives up the replica, whose file is deleted. -/
def close (log : SharedLog) : StateM Disk (SharedLog × Except ResourceFault Unit) := do
  let closed : SharedLog := { window := log.window.clear }
  match log.replica with
  | none => return (closed, .ok ())
  | some replica =>
    let outcome ← replica.remove
    replica.release
    return (closed, outcome)

/-- Lets go of the log and of its replica. -/
def release (log : SharedLog) : StateM Disk Unit :=
  match log.replica with
  | none => pure ()
  | some replica => replica.release

end SharedLog

end BoundedLog
