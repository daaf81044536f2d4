import BoundedLog.SharedLog

/-!
# The hub of a server

The threads of a server have a `Hub` in common: the log and the disk that its replica is on, the
flag that tells them to stop, the flag that says whether clients are still let in, and the permits
that wake the pulse.
-/

namespace BoundedLog

/-- What the threads of a server have in common. -/
structure Hub where
  log : SharedLog
  disk : Disk
  /-- Whether the server is told to stop. -/
  stopped : Bool := false
  /-- Whether clients are let in. -/
  accepting : Bool := true
  /-- The permits for the pulse. -/
  pulseWakes : Nat := 0

namespace Hub

/-- Adds a permit for the pulse. -/
def wakePulse (h : Hub) : Hub := { h with pulseWakes := h.pulseWakes + 1 }

/-- Takes a permit for the pulse, if there is one. -/
def takePulseWake? (h : Hub) : Option Hub :=
  match h.pulseWakes with
  | 0 => none
  | pulseWakes + 1 => some { h with pulseWakes }

/-- Writes to the log through a draft. -/
def write (h : Hub) (draft : Draft) (bytes : Bytes) : Draft × Hub :=
  let ((log, draft), disk) := (h.log.write draft bytes).run h.disk
  (draft, { h with log, disk })

/-- Closes the log, and says what failed, if anything did. -/
def close (h : Hub) : Option ResourceFault × Hub :=
  let ((log, outcome), disk) := h.log.close.run h.disk
  let failure := match outcome with
    | .ok _ => none
    | .error cause => some cause
  (failure, { h with log, disk })

end Hub

end BoundedLog
