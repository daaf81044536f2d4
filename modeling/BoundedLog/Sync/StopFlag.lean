/-!
# The stop flag

A `StopFlag` is raised once and never lowered. Threads may sleep until it is raised or until
their time is over. A call that raises the flag first sets it and only then takes the lock and
wakes the sleepers; a call that waits looks at the flag while it holds the lock, and gives the
lock back in the same moment in which it falls asleep. The flag may be set between the look and that
moment, but nobody wakes the sleepers then. So a sleeper that found the flag down is there when
the sleepers are woken.

Every call is made of the steps between which other calls may act; `StopFlag.step` takes one of
them. A call returns when it has come to its last place.
-/

namespace BoundedLog

namespace StopFlag

/-- How far a call has come. -/
inductive Call
  /-- The flag is set, by this call if it was the `first`; the lock is still to be taken. -/
  | raised (first : Bool)
  /-- A call that raises the flag has the lock and is about to wake the sleepers. -/
  | announcing (first : Bool)
  /-- A call that raises the flag has woken the sleepers and is about to give back the lock. -/
  | leaving (first : Bool)
  /-- A call that raises the flag has returned. -/
  | stopped (first : Bool)
  /-- A call that waits is about to take the lock. -/
  | entering
  /-- A call that waits has the lock and is about to look whether it has to wait at all. -/
  | checking
  /-- A call that waits has the lock and is about to look whether it has to sleep. -/
  | rechecking
  /-- A call that waits has found the flag down and is about to sleep, which gives back the lock. -/
  | retiring
  /-- A call that waits sleeps. -/
  | asleep
  /-- A call that waits is awake again and needs the lock; its time may be over. -/
  | woken (expired : Bool)
  /-- A call that waits has the lock and is about to look at the flag for its answer. -/
  | concluding
  /-- A call that waits has its answer and is about to give back the lock. -/
  | answering (raised : Bool)
  /-- A call that waits has returned, and tells whether it found the flag raised. -/
  | waited (raised : Bool)
  deriving DecidableEq, Repr

end StopFlag

/-- The flag, who holds the lock, and the calls made so far, in order. -/
structure StopFlag where
  raised : Bool := false
  /-- The place of the call that holds the lock. -/
  holder : Option Nat := none
  calls : List StopFlag.Call := []
  deriving DecidableEq, Repr

namespace StopFlag

/-- What happens next. -/
inductive Action
  /-- A new call raises the flag. -/
  | stop
  /-- A new call begins to wait. -/
  | wait
  /-- The call at a place takes its next step. -/
  | advance (place : Nat)
  /-- The sleeping call at a place wakes up without a reason. -/
  | rouse (place : Nat)
  /-- The time of the call at a place is over, which sleeps or has not resumed yet. -/
  | expire (place : Nat)
  deriving DecidableEq, Repr

/-- The flag with the call at a place come to another point. -/
def goTo (f : StopFlag) (place : Nat) (call : Call) : StopFlag :=
  { f with calls := f.calls.set place call }

/-- The call at a place takes the lock, if nobody has it. -/
def lock (f : StopFlag) (place : Nat) (call : Call) : Option StopFlag :=
  match f.holder with
  | none => some { f.goTo place call with holder := some place }
  | some _ => none

/-- The call at a place gives back the lock. -/
def unlock (f : StopFlag) (place : Nat) (call : Call) : StopFlag :=
  { f.goTo place call with holder := none }

/-- A call after all sleepers were woken. -/
def Call.afterWaking : Call → Call
  | asleep => woken false
  | call => call

/-- The next step of the call at a place. -/
def advance (f : StopFlag) (place : Nat) : Call → Option StopFlag
  | .raised first => f.lock place (.announcing first)
  | .announcing first =>
    some { f with calls := (f.calls.set place (.leaving first)).map Call.afterWaking }
  | .leaving first => some (f.unlock place (.stopped first))
  | .entering => f.lock place .checking
  | .checking => some (f.goTo place (if f.raised then .concluding else .rechecking))
  | .rechecking => some (f.goTo place (if f.raised then .concluding else .retiring))
  | .retiring => some (f.unlock place .asleep)
  | .woken expired => f.lock place (if expired then .concluding else .rechecking)
  | .concluding => some (f.goTo place (.answering f.raised))
  | .answering raised => some (f.unlock place (.waited raised))
  | .stopped _ | .asleep | .waited _ => none

/-- What an action comes to; `none` if it is not possible. -/
def step (f : StopFlag) : Action → Option StopFlag
  | .stop => some { f with raised := true, calls := f.calls ++ [.raised (!f.raised)] }
  | .wait => some { f with calls := f.calls ++ [.entering] }
  | .advance place => do f.advance place (← f.calls[place]?)
  | .rouse place => do
    if (← f.calls[place]?) = .asleep then some (f.goTo place (.woken false)) else none
  | .expire place => do
    match ← f.calls[place]? with
    | .asleep | .woken false => some (f.goTo place (.woken true))
    | _ => none

/-- The flag behind a list of actions. -/
def run (f : StopFlag) : List Action → Option StopFlag
  | [] => some f
  | action :: actions => do (← f.step action).run actions

/-- The flag behind a list of actions, of which those are left out that are not possible. -/
def attempt (f : StopFlag) : List Action → StopFlag
  | [] => f
  | action :: actions => ((f.step action).getD f).attempt actions

/-- The steps that bring the call at a place to its return or to sleep, if no other call is in
its way. -/
def throughout (place : Nat) : List Action := List.replicate 4 (.advance place)

/-- What the call at a place has returned. -/
def returned? (f : StopFlag) (place : Nat) : Option Bool :=
  match f.calls[place]? with
  | some (.stopped first) => some first
  | some (.waited raised) => some raised
  | _ => none

end StopFlag

end BoundedLog
