import BoundedLog.Bytes
import BoundedLog.Files.Path
import BoundedLog.IoError

/-!
# Trees of files

A `Tree` is what a file system of directories and regular files holds: at each location, a list of
names from the root, either a file with its content, a directory, or nothing. Links are left out,
the symbolic ones and the hard ones, so a file has one location and a path is not led elsewhere;
so are special files, and owners and permissions, so nothing is refused to anybody.

The operations follow a path segment by segment from the root, so every segment but the last must
lead to a directory, and each either changes the tree at one or two locations or refuses with the
system's error and changes nothing.
-/

namespace BoundedLog

/-- What a location of a tree holds. -/
inductive Entry
  | file (content : Bytes)
  | directory
  deriving DecidableEq, Repr

/-- A place in a tree: the names that lead to it from the root. -/
abbrev Location := List String

/-- The directories and regular files of a file system, each with its location. The root is a
directory and has no entry of its own. -/
structure Tree where
  entries : List (Location × Entry)
  deriving DecidableEq, Repr

/-- Where a path ends. -/
inductive Ending
  /-- At a name in an existing directory, which may hold something there or not; the path may
  demand a directory there, by a slash at its end. -/
  | named (directory : Location) (name : String) (slash : Bool)
  /-- At an existing directory that it does not name. -/
  | unnamed (directory : Location)
  deriving DecidableEq, Repr

namespace Tree

/-- The tree of a bare root. -/
def empty : Tree := ⟨[]⟩

/-- What the tree holds at a location. -/
def lookup (t : Tree) (l : Location) : Option Entry :=
  if l.isEmpty then some .directory else t.entries.lookup l

/-- The tree without what it holds at a location. -/
def erase (t : Tree) (l : Location) : Tree := ⟨t.entries.filter (·.1 != l)⟩

/-- The tree with an entry at a location. -/
def insert (t : Tree) (l : Location) (e : Entry) : Tree := ⟨(l, e) :: (t.erase l).entries⟩

/-- The tree without all below a location. -/
def clear (t : Tree) (l : Location) : Tree :=
  ⟨t.entries.filter fun (other, _) => other == l || !l.isPrefixOf other⟩

/-- The longest name, in bytes. -/
def nameLimit : Nat := 255

/-- The longest path, in bytes. -/
def pathLimit : Nat := 4095

/-- What a directory holds under a name, if it can hold anything under it. -/
def child (t : Tree) (directory : Location) (name : String) : Except IoError (Option Entry) :=
  if nameLimit < name.utf8ByteSize then .error .nameTooLong
  else .ok (t.lookup (directory ++ [name]))

/-- The directory to which segments lead from a location. -/
def descend (t : Tree) (here : Location) : List String → Except IoError Location
  | [] => .ok here
  | segment :: rest =>
    if segment == "." then descend t here rest
    else if segment == ".." then descend t here.dropLast rest
    else match t.child here segment with
      | .error e => .error e
      | .ok none => .error .noSuchEntry
      | .ok (some (.file _)) => .error .notDirectory
      | .ok (some .directory) => descend t (here ++ [segment]) rest

/-- Where a path ends in the tree. Its last name is not looked up. -/
def resolve (t : Tree) (p : Path) : Except IoError Ending := do
  if p.text.toList.contains '\x00' then throw .nullInPath
  if p.text.isEmpty then throw .noSuchEntry
  if pathLimit < p.text.utf8ByteSize then throw .nameTooLong
  let segments := p.segments.filter (· != "")
  match segments.getLast? with
  | none => return .unnamed []
  | some last =>
    let directory ← t.descend [] segments.dropLast
    if last == "." then return .unnamed directory
    else if last == ".." then return .unnamed directory.dropLast
    else return .named directory last (p.text.endsWith "/")

/-- What a path leads to. -/
def find (t : Tree) (p : Path) : Except IoError Entry := do
  match ← t.resolve p with
  | .unnamed _ => return .directory
  | .named directory name slash =>
    match ← t.child directory name with
    | none => throw .noSuchEntry
    | some .directory => return .directory
    | some (.file content) => if slash then throw .notDirectory else return .file content

/-- Whether a path leads to a directory. -/
def isDirectory (t : Tree) (p : Path) : Bool :=
  match t.find p with
  | .ok .directory => true
  | _ => false

/-- The content of the file at a path. -/
def read (t : Tree) (p : Path) : Except IoError Bytes := do
  match ← t.find p with
  | .directory => throw .isDirectory
  | .file content => return content

/-- Makes a directory at a path where nothing is. -/
def makeDirectory (t : Tree) (p : Path) : Except IoError Tree := do
  match ← t.resolve p with
  | .unnamed _ => throw .entryExists
  | .named directory name _ =>
    match ← t.child directory name with
    | some _ => throw .entryExists
    | none => return t.insert (directory ++ [name]) .directory

/-- Makes an empty file at a path, or empties the one that is there, and says where it is. A
path with a slash at its end is refused before its last name is looked up. -/
def create (t : Tree) (p : Path) : Except IoError (Location × Tree) := do
  match ← t.resolve p with
  | .unnamed _ => throw .isDirectory
  | .named directory name slash =>
    if slash then throw .isDirectory
    match ← t.child directory name with
    | some .directory => throw .isDirectory
    | _ => return (directory ++ [name], t.insert (directory ++ [name]) (.file []))

/-- Removes the file at a path. -/
def unlink (t : Tree) (p : Path) : Except IoError Tree := do
  match ← t.resolve p with
  | .unnamed _ => throw .isDirectory
  | .named directory name slash =>
    match ← t.child directory name with
    | none => throw .noSuchEntry
    | some .directory => throw .isDirectory
    | some (.file _) => if slash then throw .notDirectory else return t.erase (directory ++ [name])

/-- Removes the file or directory at a path, with all below it. A directory that the path does not
name stays, but is cleared. -/
def removeAll (t : Tree) (p : Path) : Except IoError Tree := do
  match ← t.resolve p with
  | .unnamed directory => return t.clear directory
  | .named directory name slash =>
    match ← t.child directory name with
    | none => throw .noSuchEntry
    | some .directory => return (t.clear (directory ++ [name])).erase (directory ++ [name])
    | some (.file _) => if slash then throw .notDirectory else return t.erase (directory ++ [name])

/-- Moves the file at one path to another, where it takes the place of a file that is there. -/
def rename (t : Tree) (source target : Path) : Except IoError Tree := do
  match ← t.resolve source, ← t.resolve target with
  | .named directory name slash, .named directory' name' slash' =>
    match ← t.child directory name with
    | none => throw .noSuchEntry
    | some .directory => throw .busy
    | some (.file content) =>
      let replaced ← t.child directory' name'
      if slash || slash' then throw .notDirectory
      match replaced with
      | some .directory => throw .isDirectory
      | _ => return (t.erase (directory ++ [name])).insert (directory' ++ [name']) (.file content)
  | _, _ => throw .busy

/-- Appends to the file at a location. -/
def append (t : Tree) (l : Location) (bytes : Bytes) : Tree :=
  match t.lookup l with
  | some (.file content) => t.insert l (.file (content ++ bytes))
  | _ => t

end Tree

end BoundedLog
