import BoundedLog.Server.Hub
import BoundedLog.Session

/-!
# Services

A service is the job of a worker: the session with one client whose bytes arrive bit by bit. The
session takes a line as soon as it can be read to its end with what has arrived, whatever else the
client is going to send. A connection that cannot be made ready is one at which a failure arrives
before anything else.
-/

namespace BoundedLog

/-- The job of serving one client. -/
structure Service where
  session : Session
  /-- Whether the client may still send something. -/
  isOpen : Bool := true
  /-- What the session came to, once it is over. -/
  outcome : Option (Except Fault Summary) := none

namespace Service

/-- The service of a client that has just connected. -/
def ofOutlet (outlet : Outlet) : Service := { session := { arrivals := [], outlet } }

/-- Something arrives, if the client may still send. -/
def deliver (s : Service) (arrival : Arrival) : Service :=
  if s.isOpen then
    { s with session := { s.session with arrivals := s.session.arrivals ++ [arrival] } }
  else s

/-- The client will not send anything more. -/
def hangUp (s : Service) : Service := { s with isOpen := false }

/-- Whether the session can take a line. -/
def canReceive (s : Service) (stopped : Bool) : Bool :=
  !s.isOpen || Arrival.endsReading stopped s.session.arrivals

/-- Ends the session. -/
def conclude (s : Service) (session : Session) (outcome : Except Fault Unit) : Service :=
  { s with session := session.finish, outcome := some (outcome.map fun _ => session.summary) }

/-- The next step of the session: it takes a line, or it sends the reply. -/
def step (s : Service) (h : Hub) : Option (Service × Hub) :=
  match s.session.phase with
  | .receiving =>
    if s.canReceive h.stopped then
      let ((outcome, scene), disk) :=
        (Session.receive { session := s.session, log := h.log, stopped := h.stopped }).run h.disk
      let h := { h with log := scene.log, disk, stopped := scene.stopped }
      match outcome with
      | .ok _ => some ({ s with session := scene.session }, h)
      | .error cause => some (s.conclude scene.session (.error cause), h)
    else none
  | .replying =>
    let (outcome, scene) := Session.reply { session := s.session, log := h.log }
    some (s.conclude scene.session outcome, h)
  | .finished => none

end Service

end BoundedLog
