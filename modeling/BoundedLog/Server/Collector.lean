import BoundedLog.Server.Crew

/-!
# The collector

The collector takes the members off the roster whose end is marked and waits for their threads.
It does so each time it gets a permit, for all of them, so a permit that is taken for one worker may
serve several. It looks at one mark after the other and holds the roster meanwhile, so nobody else
comes onto the roster or leaves it; but workers mark their ends all the same. After each round it
asks whether clients are still let in and, if not, whether the roster is empty; if it is, the
collector ends.
-/

namespace BoundedLog

/-- Where the collector is in its round. -/
inductive Collector.Place
  /-- It waits for a permit. -/
  | waiting
  /-- It has taken a permit and is about to take hold of the roster. -/
  | scanning
  /-- It holds the roster and is about to look at the marks of some members, one after the other;
  those that it has found are marked. -/
  | checking (unread found : List Nat)
  /-- It waits for the threads of the members that it has taken, one after the other. -/
  | joining (ids : List Nat)
  /-- It is about to ask whether clients are let in. -/
  | askingAccepting
  /-- It is about to ask whether the roster is empty. -/
  | askingEmpty
  | ended
  deriving DecidableEq, Repr

/-- Whether the roster is held, so that nobody else can change it. -/
def Collector.Place.holdsRoster : Collector.Place → Bool
  | checking _ _ => true
  | _ => false

/-- The thread that clears the roster. -/
structure Collector where
  place : Collector.Place := .waiting
  /-- The workers whose threads it has waited for, in that order. -/
  joined : List Nat := []
  deriving DecidableEq, Repr

namespace Collector

/-- How many workers were collected. -/
def total (c : Collector) : Nat := c.joined.length

/-- The next step of the collector. -/
def step {Job : Type} (c : Collector) (accepting : Bool) (crew : Crew Job) :
    Option (Collector × Crew Job) :=
  match c.place with
  | .waiting => do return ({ c with place := .scanning }, ← crew.takeWake?)
  | .scanning => some ({ c with place := .checking (crew.roster.map (·.id)) [] }, crew)
  | .checking (id :: unread) found =>
    let found := if crew.isMarked id then found ++ [id] else found
    some ({ c with place := .checking unread found }, crew)
  | .checking [] found =>
    let (members, crew) := crew.takeOff found
    some ({ c with place := .joining (members.map (·.id)) }, crew)
  | .joining [] => some ({ c with place := .askingAccepting }, crew)
  | .joining (id :: ids) => do
    let _ ← crew.outcome? id
    some ({ place := .joining ids, joined := c.joined ++ [id] }, crew)
  | .askingAccepting =>
    some ({ c with place := if accepting then .waiting else .askingEmpty }, crew)
  | .askingEmpty =>
    some ({ c with place := if crew.roster.isEmpty then .ended else .waiting }, crew)
  | .ended => none

end Collector

end BoundedLog
