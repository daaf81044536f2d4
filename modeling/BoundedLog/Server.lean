import BoundedLog.Server.Collector
import BoundedLog.Server.Pulse
import BoundedLog.Server.Service

/-!
# Servers

A running server is a supervisor, a crew of workers with one client each, a collector and, if the
log has a replica, a ticker and a pulse. `Server.step` takes one step of one of these threads, or
lets something happen from outside: a client connects, sends or hangs up, somebody asks the server
to stop, adds a permit or writes to the log. Between two steps any other thread may act, so what
a server can do is what `Server.run` makes of some list of actions. Whenever a thread is needed it
can be started; that the system refuses one is left out.

A request to stop has three steps: it raises the stop flag, wakes the collector, and wakes the
pulse. When the supervisor sees the flag, or the listener fails for good, it makes such a request
itself, lets nobody in any more, wakes the collector once more, waits for the collector, for the
workers that are still on the roster, for the ticker and for the pulse, and closes the log.
-/

namespace BoundedLog

/-- Where the supervisor is. -/
inductive Supervisor
  /-- It is about to look at the stop flag. -/
  | asking
  /-- It waits for a client, for a while. -/
  | listening
  /-- It is about to raise the stop flag. -/
  | raisingStop
  /-- It is about to wake the collector because the server stops. -/
  | wakingCollector
  /-- It is about to wake the pulse because the server stops. -/
  | wakingPulse
  /-- Nobody can connect any more; it is about to say so. -/
  | closing
  /-- It is about to wake the collector because nobody is let in. -/
  | announcing
  /-- It waits for the collector. -/
  | awaitingCollector
  /-- It is about to take all members off the roster. -/
  | takingAll
  /-- It waits for the threads of these workers, one after the other. -/
  | awaitingWorkers (ids : List Nat)
  | awaitingTicker
  | awaitingPulse
  | closingLog
  /-- It has returned, perhaps because of a failure to close the log, or else one of the
  listener. -/
  | ended (failure : Option ResourceFault)
  deriving DecidableEq, Repr

/-- How far a request to stop has come. -/
inductive StopRequest
  /-- The stop flag is raised. -/
  | raised
  /-- The collector is woken as well. -/
  | collectorWoken
  /-- The pulse is woken as well. -/
  | complete
  deriving DecidableEq, Repr

/-- The threads of a server and what they have in common. -/
structure Server where
  hub : Hub
  crew : Crew Service := {}
  supervisor : Supervisor := .asking
  collector : Collector := {}
  /-- The ticker and the pulse, if the log has a replica. -/
  heart : Option (Ticker × Pulse) := none
  /-- The requests to stop that were made from outside, in order. -/
  requests : List StopRequest := []
  /-- What writers from outside have not completed. -/
  drafts : Nat → Draft := fun _ => {}
  /-- Why the listener failed for good, if it did. -/
  listenFailure : Option IoError := none

namespace Server

/-- What happens next. -/
inductive Action
  /-- The supervisor takes a step. -/
  | supervise
  /-- A client has connected, and the supervisor starts a worker for it, once nobody else holds the
  roster. -/
  | welcome (peer : Endpoint) (outlet : Outlet)
  /-- The listener fails for good, and the supervisor makes the server stop. -/
  | failListening (cause : IoError)
  /-- The collector takes a step. -/
  | collect
  /-- The ticker takes a step. -/
  | tick
  /-- The pulse takes a step at a moment. -/
  | beat (now : Moment)
  /-- The worker with a number takes a step. -/
  | work (id : Nat)
  /-- The worker with a number breaks down. -/
  | breakDown (id : Nat)
  /-- Bytes arrive for the worker with a number. -/
  | deliver (id : Nat) (chunk : Bytes)
  /-- The transport fails for the worker with a number, if only because nothing arrives. -/
  | disturb (id : Nat) (cause : IoError)
  /-- The client of the worker with a number will not send anything more. -/
  | hangUp (id : Nat)
  /-- Somebody begins a request to stop. -/
  | requestStop
  /-- The request to stop at a place goes on. -/
  | continueStop (place : Nat)
  /-- Somebody adds a permit for the collector. -/
  | wakeCollector
  /-- Somebody adds a permit for the pulse. -/
  | wakePulse
  /-- Somebody from outside writes to the log. -/
  | write (writer : Nat) (bytes : Bytes)

/-- A server that has just begun to run. -/
def ofLog (log : SharedLog) (disk : Disk) : Server where
  hub := { log, disk }
  heart := if log.replica.isSome then some (.sleeping, {}) else none

/-- The step of the supervisor. While it listens this is the end of its patience. -/
def supervise (s : Server) : Option Server :=
  match s.supervisor with
  | .asking => some { s with supervisor := if s.hub.stopped then .raisingStop else .listening }
  | .listening => some { s with supervisor := .asking }
  | .raisingStop =>
    some { s with hub := { s.hub with stopped := true }, supervisor := .wakingCollector }
  | .wakingCollector => some { s with crew := s.crew.wake, supervisor := .wakingPulse }
  | .wakingPulse => some { s with hub := s.hub.wakePulse, supervisor := .closing }
  | .closing =>
    some { s with hub := { s.hub with accepting := false }, supervisor := .announcing }
  | .announcing => some { s with crew := s.crew.wake, supervisor := .awaitingCollector }
  | .awaitingCollector =>
    if s.collector.place = .ended then some { s with supervisor := .takingAll } else none
  | .takingAll =>
    let (members, crew) := s.crew.takeAll
    some { s with crew, supervisor := .awaitingWorkers (members.map (·.id)) }
  | .awaitingWorkers [] => some { s with supervisor := .awaitingTicker }
  | .awaitingWorkers (id :: ids) => do
    let _ ← s.crew.outcome? id
    some { s with supervisor := .awaitingWorkers ids }
  | .awaitingTicker =>
    match s.heart with
    | none => some { s with supervisor := .closingLog }
    | some (ticker, _) =>
      if ticker = .ended then some { s with supervisor := .awaitingPulse } else none
  | .awaitingPulse =>
    match s.heart with
    | none => some { s with supervisor := .closingLog }
    | some (_, pulse) =>
      if pulse.place = .ended then some { s with supervisor := .closingLog } else none
  | .closingLog =>
    let (failure, hub) := s.hub.close
    some { s with hub, supervisor := .ended (failure.or (s.listenFailure.map .io)) }
  | .ended _ => none

/-- The step of the worker with a number: of its service, or towards its end. -/
def work (s : Server) (id : Nat) : Option Server := do
  let worker ← s.crew.worker? id
  match worker.progress with
  | .working =>
    match worker.job.step s.hub with
    | some (job, hub) => some { s with hub, crew := s.crew.setWorker id { worker with job } }
    | none =>
      if worker.job.outcome.isSome then return { s with crew := ← s.crew.mark? id true } else none
  | .marked _ => return { s with crew := ← s.crew.announce? id }
  | .announced _ => return { s with crew := ← s.crew.leave? id }
  | .ended _ | .vanished => none

/-- The server with another state of the service of a worker that is at work. -/
def serve (s : Server) (id : Nat) (change : Service → Service) : Option Server := do
  let worker ← s.crew.worker? id
  if worker.progress = .working then
    some { s with crew := s.crew.setWorker id { worker with job := change worker.job } }
  else none

/-- What an action comes to; `none` if it is not possible. -/
def step (s : Server) : Action → Option Server
  | .supervise => s.supervise
  | .welcome peer outlet =>
    if s.supervisor = .listening ∧ s.collector.place.holdsRoster = false then
      some { s with
        crew := (s.crew.start peer (.ofOutlet outlet)).2
        supervisor := .asking }
    else none
  | .failListening cause =>
    if s.supervisor = .listening then
      some { s with supervisor := .raisingStop, listenFailure := some cause }
    else none
  | .collect => do
    let (collector, crew) ← s.collector.step s.hub.accepting s.crew
    some { s with collector, crew }
  | .tick => do
    let (ticker, pulse) ← s.heart
    let (ticker, hub) ← ticker.step s.hub
    some { s with hub, heart := some (ticker, pulse) }
  | .beat now => do
    let (ticker, pulse) ← s.heart
    let (pulse, hub) ← pulse.step s.hub now
    some { s with hub, heart := some (ticker, pulse) }
  | .work id => s.work id
  | .breakDown id => return { s with crew := ← s.crew.mark? id false }
  | .deliver id chunk => s.serve id (·.deliver (.bytes chunk))
  | .disturb id cause => s.serve id (·.deliver (.failure cause))
  | .hangUp id => s.serve id Service.hangUp
  | .requestStop =>
    some { s with hub := { s.hub with stopped := true }, requests := s.requests ++ [.raised] }
  | .continueStop place => do
    match ← s.requests[place]? with
    | .raised =>
      some { s with crew := s.crew.wake, requests := s.requests.set place .collectorWoken }
    | .collectorWoken =>
      some { s with hub := s.hub.wakePulse, requests := s.requests.set place .complete }
    | .complete => none
  | .wakeCollector => some { s with crew := s.crew.wake }
  | .wakePulse => some { s with hub := s.hub.wakePulse }
  | .write writer bytes =>
    let (draft, hub) := s.hub.write (s.drafts writer) bytes
    some { s with hub, drafts := fun w => if w = writer then draft else s.drafts w }

/-- The server behind a list of actions. -/
def run (s : Server) : List Action → Option Server
  | [] => some s
  | action :: actions => do (← s.step action).run actions

end Server

end BoundedLog
