import BoundedLog.Fault
import BoundedLog.Files.Replace

/-!
# Replicas

A replica is a file kept equal to the content of a log. It is emptied when it is opened, replaced
as a whole after every record, and deleted when it is closed, so nothing survives a restart.
-/

namespace BoundedLog

/-- A file kept equal to the content of a log. -/
structure Replica where
  path : Path
  deriving DecidableEq, Repr

namespace Replica

/-- Opens a replica and empties the file. -/
def create (path : Path) : DiskM Replica := do
  Disk.makeParents path
  let _ ← Disk.create path
  return ⟨path⟩

/-- Replaces the content of the replica. -/
def update (r : Replica) (content : Bytes) : StateM Disk (Except ResourceFault Unit) := do
  match ← (Disk.replace r.path content).run with
  | .ok _ => return .ok ()
  | .error cause => return .error (.replica s!"{r.path.text}: {cause.message}")

/-- Deletes the file of the replica. -/
def remove (r : Replica) : StateM Disk (Except ResourceFault Unit) := do
  match ← (Disk.removeWithStaging r.path).run with
  | .ok _ => return .ok ()
  | .error cause => return .error (.io cause)

/-- Gives the replica up; whether its file could be deleted is of no interest any more. -/
def release (r : Replica) : StateM Disk Unit := do
  let _ ← r.remove

end Replica

end BoundedLog
