/-!
# Paths

A path is a text whose segments are separated by slashes. An empty segment and the segment `.`
say nothing, except in front, where they mean the root and the present directory. What a path
names is its last telling segment, unless that is `..`; the path in front of it is the parent.

`Path.staging` is the path next to a file where its next content is prepared.
-/

namespace BoundedLog

/-- A path, as it was written. -/
structure Path where
  text : String
  deriving DecidableEq, Repr

namespace Path

/-- The pieces of a text between its slashes. -/
def pieces : List Char → List (List Char)
  | [] => [[]]
  | '/' :: rest => [] :: pieces rest
  | c :: rest =>
    match pieces rest with
    | [] => [[c]]
    | piece :: others => (c :: piece) :: others

/-- The segments of a path, empty ones included. -/
def segments (p : Path) : List String := (pieces p.text.toList).map String.ofList

/-- The path with the given segments, last one first. -/
def ofReversedSegments (segments : List String) : Path :=
  match segments with
  | [""] => ⟨"/"⟩
  | _ => ⟨"/".intercalate segments.reverse⟩

/-- Segments, last one first, without those at the end of the path that say nothing. -/
def telling : List String → List String
  | [] => []
  | [first] => [first]
  | last :: before => if last == "" || last == "." then telling before else last :: before

/-- The segments of a path, last one first, down from the last telling one. -/
def tellingSegments (p : Path) : List String := telling p.segments.reverse

/-- The name of what the path leads to. -/
def name? (p : Path) : Option String :=
  match p.tellingSegments with
  | [] => none
  | last :: _ => if last == "" || last == "." || last == ".." then none else some last

/-- The path in front of the last telling segment. -/
def parent? (p : Path) : Option Path :=
  match p.tellingSegments with
  | [] => none
  | [first] => if first == "" then none else some ⟨""⟩
  | _ :: before => some (ofReversedSegments (telling before))

/-- The path one step down from a path. -/
def join (p : Path) (name : String) : Path :=
  if name.startsWith "/" || p.text.isEmpty then ⟨name⟩
  else if p.text.endsWith "/" then ⟨p.text ++ name⟩
  else ⟨p.text ++ "/" ++ name⟩

/-- The path with another name; one without a name gets it behind all its segments. -/
def withName (p : Path) (name : String) : Path :=
  match p.name?, p.parent? with
  | some _, some parent => parent.join name
  | _, _ => p.join name

/-- Where the next content of the file at a path is prepared. -/
def staging (p : Path) : Path := p.withName (p.name?.getD "" ++ ".tmp")

/-- The first `depth` of: the path, its parent, the parent's parent, and so on. -/
def ancestorsWithin : Nat → Path → List Path
  | 0, _ => []
  | depth + 1, p => p :: (p.parent?.map (ancestorsWithin depth)).getD []

/-- The path, its parent, the parent's parent, and so on. -/
def ancestors (p : Path) : List Path := ancestorsWithin (p.segments.length + 1) p

end Path

end BoundedLog
