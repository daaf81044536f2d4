/-!
# Permits

`Permits` is a counter that threads add to and take from. A thread that waits for a permit takes
one at once if there is one and falls asleep otherwise; whoever adds a permit wakes a sleeper, if
there is any. A sleeper may also wake up without a reason, or because its time is over; the time of
one that was woken for another reason may be over as well before it resumes. Being woken is not yet
having a permit: the thread looks again when it resumes, and another one may have been faster.

`Permits.step` is what one thread does while it has the counter for itself, so a run of the
threads in any order is a list of actions.
-/

namespace BoundedLog

namespace Permits

/-- A thread that waits for a permit. -/
structure Waiter where
  thread : Nat
  /-- Whether it gives up when its time is over. -/
  timed : Bool
  deriving DecidableEq, Repr

/-- What has happened to a waiter that is not asleep any more. -/
structure Waking where
  /-- Whether it was woken because a permit was added. -/
  notified : Bool
  /-- Whether its time is over. -/
  expired : Bool
  deriving DecidableEq, Repr

end Permits

/-- A number of permits, and the threads that wait for one. -/
structure Permits where
  count : Nat := 0
  /-- The waiters that sleep. -/
  asleep : List Permits.Waiter := []
  /-- The waiters that were woken and have not resumed. -/
  woken : List (Permits.Waiter × Permits.Waking) := []
  deriving DecidableEq, Repr

namespace Permits

/-- What one thread does while it has the permits for itself. -/
inductive Action
  /-- Adds a permit and wakes the sleeper whose turn it is, if there is a sleeper at all. -/
  | post (turn : Nat)
  /-- Takes a permit if there is one. -/
  | tryTake
  /-- Begins to wait. -/
  | wait (waiter : Waiter)
  /-- Goes on after being woken. -/
  | resume (thread : Nat)
  /-- Wakes up without a reason. -/
  | rouse (thread : Nat)
  /-- Its time is over, and it wakes up if it is asleep. -/
  | expire (thread : Nat)
  deriving DecidableEq, Repr

/-- What an action came to. -/
inductive Outcome
  /-- The thread is done and was not after a permit. -/
  | done
  /-- The thread has taken a permit. -/
  | took
  /-- The thread does without a permit. -/
  | missed
  /-- The thread waits. -/
  | waits
  deriving DecidableEq, Repr

/-- Whether a thread is waiting already. -/
def isWaiting (p : Permits) (thread : Nat) : Bool :=
  p.asleep.any (·.thread == thread) || p.woken.any (·.1.thread == thread)

/-- The permits with one more of them and the sleeper woken whose turn it is. -/
def post (p : Permits) (turn : Nat) : Permits :=
  let place := turn % p.asleep.length
  match p.asleep[place]? with
  | none => { p with count := p.count + 1 }
  | some waiter =>
    { count := p.count + 1
      asleep := p.asleep.eraseIdx place
      woken := p.woken ++ [(waiter, ⟨true, false⟩)] }

/-- The permits without one, if there is one to take. -/
def take? (p : Permits) : Option Permits :=
  match p.count with
  | 0 => none
  | count + 1 => some { p with count }

/-- Wakes a sleeper although no permit was added. -/
def wakeUp (p : Permits) (thread : Nat) (waking : Waking) (mayWake : Waiter → Bool) :
    Option Permits := do
  let waiter ← p.asleep.find? (·.thread == thread)
  if mayWake waiter then
    some { p with asleep := p.asleep.erase waiter, woken := p.woken ++ [(waiter, waking)] }
  else none

/-- What has happened to somebody who was woken, when the time of the waiter is over. -/
def Waiter.runOut (waiter : Waiter) (entry : Waiter × Waking) : Waiter × Waking :=
  (entry.1, if entry.1 = waiter then { entry.2 with expired := true } else entry.2)

/-- The time of a waiter is over that was woken and has not resumed. -/
def runLate (p : Permits) (thread : Nat) : Option Permits := do
  let (waiter, _) ← p.woken.find? (·.1.thread == thread)
  if waiter.timed then some { p with woken := p.woken.map waiter.runOut } else none

/-- What an action comes to; `none` if the thread is in no position to act so. -/
def step (p : Permits) : Action → Option (Outcome × Permits)
  | .post turn => some (.done, p.post turn)
  | .tryTake =>
    match p.take? with
    | some p => some (.took, p)
    | none => some (.missed, p)
  | .wait waiter =>
    if p.isWaiting waiter.thread then none
    else match p.take? with
      | some p => some (.took, p)
      | none => some (.waits, { p with asleep := p.asleep ++ [waiter] })
  | .resume thread => do
    let (waiter, waking) ← p.woken.find? (·.1.thread == thread)
    let p := { p with woken := p.woken.erase (waiter, waking) }
    match p.take? with
    | some p => some (.took, p)
    | none =>
      if waking.expired then some (.missed, p)
      else some (.waits, { p with asleep := p.asleep ++ [waiter] })
  | .rouse thread => do return (.waits, ← p.wakeUp thread ⟨false, false⟩ fun _ => true)
  | .expire thread => do
    return (.waits, ← p.wakeUp thread ⟨false, true⟩ (·.timed) <|> p.runLate thread)

/-- The outcomes of a list of actions, in order, and the permits behind the last one. -/
def run (p : Permits) : List Action → Option (List Outcome × Permits)
  | [] => some ([], p)
  | action :: actions => do
    let (outcome, p) ← p.step action
    let (outcomes, p) ← p.run actions
    return (outcome :: outcomes, p)

/-- The state behind a list of actions, of which those are left out that are not possible, and
how many permits were taken by the others. -/
def attempt (p : Permits) : List Action → Nat × Permits
  | [] => (0, p)
  | action :: actions =>
    match p.step action with
    | none => p.attempt actions
    | some (outcome, next) =>
      let (taken, last) := next.attempt actions
      ((if outcome = .took then 1 else 0) + taken, last)

end Permits

end BoundedLog
