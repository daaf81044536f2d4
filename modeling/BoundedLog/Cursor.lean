import BoundedLog.SharedLog
import BoundedLog.Text.Utf8

/-!
# Cursors

A `Cursor` treats a shared log like an open file: it has a position of its own for reading and a
draft of its own for writing. A read stays inside one record. A seek must end inside the log or
at its end; otherwise it fails and the position stays as it is. Records that are evicted move the
content under the position, which may so come to lie behind the end.
-/

namespace BoundedLog

/-- Where a seek is counted from. -/
inductive Seek
  /-- From the first byte. -/
  | start (distance : Nat)
  /-- From the present position. -/
  | current (distance : Int)
  /-- From behind the last byte. -/
  | fromEnd (distance : Int)
  deriving DecidableEq, Repr

/-- A position in a log, for reading, and a draft for it, for writing. -/
structure Cursor where
  position : Nat := 0
  draft : Draft := {}
  deriving DecidableEq, Repr

namespace Cursor

/-- Reads at most `limit` bytes. -/
def read (c : Cursor) (log : SharedLog) (limit : Nat) : Bytes × Cursor :=
  let bytes := log.read c.position limit
  (bytes, { c with position := c.position + bytes.length })

/-- Reads `demand` bytes in as many reads as it takes, or as many bytes as there are. -/
def gather (log : SharedLog) (c : Cursor) (demand : Nat) : Bytes × Cursor :=
  if _h : (c.read log demand).1 = [] then ([], c)
  else
    let (others, last) :=
      gather log (c.read log demand).2 (demand - (c.read log demand).1.length)
    ((c.read log demand).1 ++ others, last)
termination_by demand
decreasing_by
  have positive := List.length_pos_iff.2 _h
  have bounded := log.length_read_le c.position demand
  simp only [read] at positive ⊢
  omega

/-- Reads all that is left. -/
def readToEnd (c : Cursor) (log : SharedLog) : Bytes × Cursor :=
  gather log c (log.window.size - c.position)

/-- Reads all that is left, which must be text. -/
def readText (c : Cursor) (log : SharedLog) : Except IoError Bytes × Cursor :=
  let (bytes, next) := c.readToEnd log
  match Text.Utf8.decode? bytes with
  | some _ => (.ok bytes, next)
  | none => (.error .notText, next)

/-- Reads exactly `demand` bytes. If there are fewer, they are passed over all the same. -/
def readExactly (c : Cursor) (log : SharedLog) (demand : Nat) : Except IoError Bytes × Cursor :=
  let (bytes, next) := gather log c demand
  if bytes.length = demand then (.ok bytes, next) else (.error .endedEarly, next)

/-- Writes bytes through the draft. -/
def write (c : Cursor) (log : SharedLog) (bytes : Bytes) : StateM Disk (SharedLog × Cursor) := do
  let (log, draft) ← log.write c.draft bytes
  return (log, { c with draft })

/-- The position that a seek aims at. -/
def target (c : Cursor) (log : SharedLog) : Seek → Int
  | .start distance => distance
  | .current distance => c.position + distance
  | .fromEnd distance => log.window.size + distance

/-- Moves to the position that a seek aims at. -/
def seek (c : Cursor) (log : SharedLog) (s : Seek) : Except RangeFault Cursor :=
  let target := c.target log s
  if target < 0 || (log.window.size : Int) < target then
    .error (.noPosition target log.window.size)
  else .ok { c with position := target.toNat }

/-- Moves to a byte of a record. -/
def seekTo (c : Cursor) (log : SharedLog) (index offset : Nat) : Except RangeFault Cursor :=
  (log.seek index offset).map fun position => { c with position }

/-- Moves in place and hands out the position that is reached. A cursor that cannot move stays where
it is. -/
def inPlace (move : Cursor → Except ε Cursor) : StateM Cursor (Except ε Nat) := do
  match move (← get) with
  | .error cause => return .error cause
  | .ok next =>
    set next
    return .ok next.position

/-- Seeks in place, as in any stream: a target outside of the log is an invalid input. -/
def seekInPlace (log : SharedLog) (s : Seek) : StateM Cursor (Except IoError Nat) :=
  inPlace fun c => (c.seek log s).mapError fun fault => .because .invalidInput fault.message

/-- Moves to a byte of a record in place. -/
def seekToInPlace (log : SharedLog) (index offset : Nat) : StateM Cursor (Except RangeFault Nat) :=
  inPlace (·.seekTo log index offset)

end Cursor

end BoundedLog
