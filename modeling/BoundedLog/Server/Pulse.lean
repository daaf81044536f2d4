import BoundedLog.Calendar
import BoundedLog.Server.Hub

/-!
# The pulse

A server whose log has a replica writes a time mark to the log at regular intervals. Two threads
share this work: the ticker sleeps for an interval and wakes the pulse with a permit, and the
pulse takes a permit and writes one mark for it. Both look at the stop flag between their steps:
the ticker ends instead of falling asleep again, and the pulse ends instead of writing.
-/

namespace BoundedLog

/-- The thread that wakes the pulse. -/
inductive Ticker
  | sleeping
  /-- The interval is over. -/
  | posting
  | ended
  deriving DecidableEq, Repr

namespace Ticker

/-- The next step of the ticker. Its sleep ends with the interval, or when the server stops. -/
def step : Ticker → Hub → Option (Ticker × Hub)
  | sleeping, h => some (if h.stopped then ended else posting, h)
  | posting, h => some (sleeping, h.wakePulse)
  | ended, _ => none

end Ticker

/-- Where the pulse is in its round. -/
inductive Pulse.Place
  /-- It waits for a permit. -/
  | waiting
  /-- It has taken a permit. -/
  | woken
  /-- It found that the server does not stop. -/
  | writing
  | ended
  deriving DecidableEq, Repr

/-- The thread that writes the time marks. -/
structure Pulse where
  place : Pulse.Place := .waiting
  draft : Draft := {}
  /-- How many marks were written. -/
  written : Nat := 0
  deriving DecidableEq, Repr

namespace Pulse

/-- The next step of the pulse, if it is `now` that moment. -/
def step (p : Pulse) (h : Hub) (now : Moment) : Option (Pulse × Hub) :=
  match p.place with
  | .waiting => do return ({ p with place := .woken }, ← h.takePulseWake?)
  | .woken => some ({ p with place := if h.stopped then .ended else .writing }, h)
  | .writing =>
    let (draft, h) := h.write p.draft (Bytes.ofText now.mark)
    some ({ place := .waiting, draft, written := p.written + 1 }, h)
  | .ended => none

end Pulse

end BoundedLog
