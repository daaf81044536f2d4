import BoundedLog.Files.Tree

/-!
# Disks

A `Disk` is a tree of files together with the luck that is ahead: which of the coming operations
fail although the tree would allow them, and how much of what is written is taken at once. When
the luck runs out, every operation does what the tree allows. The disk also remembers the trees
it went through, which is what another process could have seen between two operations.

`DiskM` is an activity on a disk that may fail.
-/

namespace BoundedLog

/-- What the disk has in store for one operation. -/
inductive Luck
  /-- The operation does what the tree allows. -/
  | fair
  /-- Of bytes that are written, at most this many are taken. -/
  | short (limit : Nat)
  /-- The operation fails and changes nothing. -/
  | failing (cause : IoError)
  deriving DecidableEq, Repr

/-- A tree of files, the luck ahead, and the trees gone through, the latest first. -/
structure Disk where
  tree : Tree
  luck : List Luck := []
  history : List Tree := []
  deriving DecidableEq, Repr

/-- An activity on a disk that may fail. -/
abbrev DiskM := ExceptT IoError (StateM Disk)

namespace Disk

/-- The disk with another tree, which is remembered. -/
def moveTo (d : Disk) (tree : Tree) : Disk := { d with tree, history := tree :: d.history }

/-- One operation on the tree, which succeeds only if the luck allows. -/
def operate (operation : Tree → Except IoError (α × Tree)) : DiskM α :=
  ExceptT.mk fun d =>
    let next := { d with luck := d.luck.tail }
    match d.luck with
    | .failing cause :: _ => (.error cause, next)
    | _ =>
      match operation d.tree with
      | .error cause => (.error cause, next)
      | .ok (result, tree) => (.ok result, next.moveTo tree)

/-- Makes a directory. -/
def makeDirectory (p : Path) : DiskM Unit := operate fun t => return ((), ← t.makeDirectory p)

/-- Makes an empty file, or empties the one that is there, and opens it. -/
def create (p : Path) : DiskM Location := operate (·.create p)

/-- Removes a file. -/
def unlink (p : Path) : DiskM Unit := operate fun t => return ((), ← t.unlink p)

/-- Moves a file. -/
def rename (source target : Path) : DiskM Unit :=
  operate fun t => return ((), ← t.rename source target)

/-- Makes what was written to an open file permanent. -/
def sync (_ : Location) : DiskM Unit := operate fun t => return ((), t)

/-- Removes a file or a directory, with all below it. -/
def removeAll (p : Path) : DiskM Unit := operate fun t => return ((), ← t.removeAll p)

/-- Whether a path leads to a directory. -/
def isDirectory (p : Path) : DiskM Bool := return (← get).tree.isDirectory p

/-- Writes to an open file piece by piece, as much at a time as the luck allows; an interrupted
write is tried again. -/
def writeWith (file : Location) : List Luck → Bytes → Disk → Except IoError Unit × Disk
  | luck, [], d => (.ok (), { d with luck })
  | [], bytes, d => (.ok (), { d.moveTo (d.tree.append file bytes) with luck := [] })
  | .fair :: luck, bytes, d => (.ok (), { d.moveTo (d.tree.append file bytes) with luck })
  | .short 0 :: luck, _ :: _, d => (.error .acceptsNothing, { d with luck })
  | .short (limit + 1) :: luck, bytes, d =>
    writeWith file luck (bytes.drop (limit + 1))
      (d.moveTo (d.tree.append file (bytes.take (limit + 1))))
  | .failing cause :: luck, bytes, d =>
    if cause.kind = .interrupted then writeWith file luck bytes d
    else (.error cause, { d with luck })

/-- Writes to an open file. -/
def write (file : Location) (bytes : Bytes) : DiskM Unit :=
  ExceptT.mk fun d => writeWith file d.luck bytes d

/-- Makes the directories at the given paths, each of which is the parent of the one before it.
A directory that is there already is as good as a new one. -/
def makeChain : List Path → DiskM Unit
  | [] => throw (.because .uncategorized "failed to create whole tree")
  | p :: parents =>
    if p.text.isEmpty then pure ()
    else tryCatch (makeDirectory p) fun cause => do
      if cause.kind = .notFound then
        makeChain parents
        tryCatch (makeDirectory p) fun cause => do
          unless ← isDirectory p do throw cause
      else unless ← isDirectory p do throw cause

/-- Makes a directory with all directories above it. -/
def makeDirectories (p : Path) : DiskM Unit := makeChain p.ancestors

/-- Makes all directories above a path. -/
def makeParents (p : Path) : DiskM Unit :=
  match p.parent? with
  | none => pure ()
  | some parent => if parent.text.isEmpty then pure () else makeDirectories parent

end Disk

end BoundedLog
