import BoundedLog.Server.Address

/-!
# Crews

A crew is the workers of a server, each of which has one job, and the roster of those that nobody
has taken charge of yet. A worker enters the roster in the same step in which it starts, so there
is no moment at which it works unseen. When it has done its job it marks its end and then, in a
second step, wakes the collector with a permit; only then does its thread end. It does so even
if it breaks down.

Whoever takes members off the roster takes charge of them and waits for their threads to end.
-/

namespace BoundedLog

/-- How far a worker has come. -/
inductive Progress
  | working
  /-- Its end is marked, and whether it ended well is known. -/
  | marked (ok : Bool)
  /-- The collector is told. -/
  | announced (ok : Bool)
  /-- Its thread has ended. -/
  | ended (ok : Bool)
  /-- Its thread has ended, and nobody was told. -/
  | vanished
  deriving DecidableEq, Repr

namespace Progress

/-- Whether the end of the worker is marked. -/
def isMarked : Progress → Bool
  | working | vanished => false
  | marked _ | announced _ | ended _ => true

/-- Whether the collector was told. -/
def isAnnounced : Progress → Bool
  | announced _ | ended _ => true
  | _ => false

/-- How the thread ended, if it has. -/
def outcome? : Progress → Option Bool
  | ended ok => some ok
  | vanished => some true
  | _ => none

end Progress

/-- A worker and its job. -/
structure Worker (Job : Type) where
  job : Job
  progress : Progress := .working
  deriving Repr

/-- A worker on the roster: its number, and the client it works for. -/
structure Member where
  id : Nat
  peer : Endpoint
  deriving DecidableEq, Repr

/-- The workers of a server and their roster. -/
structure Crew (Job : Type) where
  /-- Every worker that was ever started. They are numbered from one on. -/
  workers : List (Worker Job) := []
  /-- The workers that nobody has taken charge of, oldest first. -/
  roster : List Member := []
  /-- The permits for the collector. -/
  wakes : Nat := 0
  deriving Repr

namespace Crew

variable {Job : Type}

/-- The worker with a number. -/
def worker? (c : Crew Job) : Nat → Option (Worker Job)
  | 0 => none
  | place + 1 => c.workers[place]?

/-- The crew with another state of the worker with a number. -/
def setWorker (c : Crew Job) (id : Nat) (worker : Worker Job) : Crew Job :=
  { c with workers := c.workers.set (id - 1) worker }

/-- How far the worker with a number has come. -/
def progress? (c : Crew Job) (id : Nat) : Option Progress := (c.worker? id).map (·.progress)

/-- Whether the end of the worker with a number is marked. -/
def isMarked (c : Crew Job) (id : Nat) : Bool := ((c.progress? id).map Progress.isMarked).getD false

/-- Starts a worker and puts it on the roster. -/
def start (c : Crew Job) (peer : Endpoint) (job : Job) : Nat × Crew Job :=
  let id := c.workers.length + 1
  (id, { c with workers := c.workers ++ [{ job }], roster := c.roster ++ [⟨id, peer⟩] })

/-- Adds a permit for the collector. -/
def wake (c : Crew Job) : Crew Job := { c with wakes := c.wakes + 1 }

/-- Takes a permit for the collector, if there is one. -/
def takeWake? (c : Crew Job) : Option (Crew Job) :=
  match c.wakes with
  | 0 => none
  | wakes + 1 => some { c with wakes }

/-! ### The end of a worker -/

/-- A worker marks its end. -/
def mark? (c : Crew Job) (id : Nat) (ok : Bool) : Option (Crew Job) := do
  let worker ← c.worker? id
  if worker.progress = .working then
    some (c.setWorker id { worker with progress := .marked ok })
  else none

/-- A worker whose end is marked tells the collector. -/
def announce? (c : Crew Job) (id : Nat) : Option (Crew Job) := do
  let worker ← c.worker? id
  match worker.progress with
  | .marked ok => some (c.setWorker id { worker with progress := .announced ok }).wake
  | _ => none

/-- The thread of a worker ends that has told the collector. -/
def leave? (c : Crew Job) (id : Nat) : Option (Crew Job) := do
  let worker ← c.worker? id
  match worker.progress with
  | .announced ok => some (c.setWorker id { worker with progress := .ended ok })
  | _ => none

/-- The thread of a worker ends although its end was not marked. -/
def vanish? (c : Crew Job) (id : Nat) : Option (Crew Job) := do
  let worker ← c.worker? id
  if worker.progress = .working then
    some (c.setWorker id { worker with progress := .vanished })
  else none

/-- How the thread of a worker ended, if it has. -/
def outcome? (c : Crew Job) (id : Nat) : Option Bool := (c.progress? id).bind Progress.outcome?

/-! ### The roster -/

/-- Takes the members with these numbers off the roster. -/
def takeOff (c : Crew Job) (ids : List Nat) : List Member × Crew Job :=
  let (taken, others) := c.roster.partition fun member => ids.contains member.id
  (taken, { c with roster := others })

/-- Takes the members off the roster whose end is marked. -/
def takeFinished (c : Crew Job) : List Member × Crew Job :=
  c.takeOff ((c.roster.map (·.id)).filter c.isMarked)

/-- Takes all members off the roster. -/
def takeAll (c : Crew Job) : List Member × Crew Job := (c.roster, { c with roster := [] })

/-! ### Runs -/

/-- What the threads of a server do with its crew. -/
inductive Action (Job : Type)
  | start (peer : Endpoint) (job : Job)
  | mark (id : Nat) (ok : Bool)
  | announce (id : Nat)
  | leave (id : Nat)
  | takeFinished
  | takeAll
  | takeWake
  /-- Somebody else adds a permit for the collector. -/
  | wake

/-- What an action gives back. -/
inductive Outcome
  | started (id : Nat)
  | taken (members : List Member)
  | done
  deriving DecidableEq, Repr

/-- What an action comes to; `none` if it is not possible. -/
def step (c : Crew Job) : Action Job → Option (Outcome × Crew Job)
  | .start peer job => let (id, c) := c.start peer job; some (.started id, c)
  | .mark id ok => return (.done, ← c.mark? id ok)
  | .announce id => return (.done, ← c.announce? id)
  | .leave id => return (.done, ← c.leave? id)
  | .takeFinished => let (members, c) := c.takeFinished; some (.taken members, c)
  | .takeAll => let (members, c) := c.takeAll; some (.taken members, c)
  | .takeWake => return (.done, ← c.takeWake?)
  | .wake => some (.done, c.wake)

/-- The outcomes of a list of actions, in order, and the crew behind the last one. -/
def run (c : Crew Job) : List (Action Job) → Option (List Outcome × Crew Job)
  | [] => some ([], c)
  | action :: actions => do
    let (outcome, c) ← c.step action
    let (outcomes, c) ← c.run actions
    return (outcome :: outcomes, c)

/-- A worker ends, well or not, and tells the collector. -/
def finish (c : Crew Job) (id : Nat) (ok : Bool) : Crew Job :=
  let finished? := do (← (← c.mark? id ok).announce? id).leave? id
  finished?.getD c

end Crew

end BoundedLog
