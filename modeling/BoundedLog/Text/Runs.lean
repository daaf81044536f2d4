/-!
# Sets of characters as runs

A set of characters is written down as the runs of its code points, in ascending order. The runs
are gathered in pages, so that a look-up goes through the pages and through the runs of one of
them.
-/

namespace BoundedLog.Text

/-- Some runs, each with its first and its last code point, that follow one another. -/
structure Page where
  /-- The last code point of the last run. -/
  last : Nat
  runs : List (Nat × Nat)
  deriving DecidableEq, Repr

/-- Whether a run of the page goes through a code point. -/
def Page.holds (page : Page) (n : Nat) : Bool :=
  page.runs.any fun (first, last) => first ≤ n && n ≤ last

/-- Whether the first page that reaches a code point has a run through it. -/
def pagesHold (pages : List Page) (n : Nat) : Bool := (pages.find? (n ≤ ·.last)).any (·.holds n)

end BoundedLog.Text
