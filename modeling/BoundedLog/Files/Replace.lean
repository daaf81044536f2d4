import BoundedLog.Files.Disk

/-!
# Replacing files as a whole

The content of a file is replaced as a whole: the next content is written to a staging file next
to it, made permanent, and moved to the file's place. A reader finds the former content or the
next one and nothing in between.
-/

namespace BoundedLog

/-- What is to be written to a file, and whether the writer gives up behind it. -/
structure Writing where
  content : Bytes
  failure : Option IoError := none
  deriving DecidableEq, Repr

namespace Disk

/-- Fills an open file. -/
def fill (file : Location) (writing : Writing) : DiskM Unit := do
  write file writing.content
  match writing.failure with
  | none => pure ()
  | some cause => throw cause

/-- Replaces the content of the file at a path by what the writer puts into the staging file. If
the writing fails, the staging file is removed as far as possible. -/
def replaceBy (p : Path) (writer : Location → DiskM Unit) : DiskM Unit := do
  makeParents p
  let file ← create p.staging
  tryCatch (do writer file; sync file) fun cause => do
    tryCatch (unlink p.staging) fun _ => pure ()
    throw cause
  rename p.staging p

/-- Replaces the content of the file at a path by what is written to the staging file. -/
def replaceWith (p : Path) (writing : Writing) : DiskM Unit := replaceBy p (fill · writing)

/-- Replaces the content of the file at a path. -/
def replace (p : Path) (content : Bytes) : DiskM Unit := replaceWith p { content }

/-- Removes the file at a path and says how many were removed; none there is none removed. -/
def removeIfPresent (p : Path) : DiskM Nat :=
  tryCatch (do unlink p; return 1) fun cause =>
    if cause.kind = .notFound then pure 0 else throw cause

/-- Removes the file at a path, then its staging file, and says how many were removed. -/
def removeWithStaging (p : Path) : DiskM Nat := do
  let file ← removeIfPresent p
  let staging ← removeIfPresent p.staging
  return file + staging

end Disk

end BoundedLog
