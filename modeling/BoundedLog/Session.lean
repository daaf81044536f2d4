import BoundedLog.Session.Request
import BoundedLog.Session.Stream
import BoundedLog.SharedLog

/-!
# Sessions

A session serves one client. While it is receiving it takes line after line: a seek sets the
place from which the reply will begin, and the first other line is appended to the log. Then the
session replies with the content of the log, from that place on if there is one, and is finished.
A client may also finish behind its seeks without a record. A fault ends the session at once, and
what the client sent in part is dropped.

`Session.receive` takes one line and `Session.reply` sends the reply; each of them is at work on
the log once, so sessions that run side by side take turns between these steps.
-/

namespace BoundedLog

/-- How far a session has come. -/
inductive Phase
  | receiving
  | replying
  | finished
  deriving DecidableEq, Repr

/-- What a session has done. -/
structure Summary where
  seeks : Nat := 0
  records : Nat := 0
  replied : Nat := 0
  deriving DecidableEq, Repr

/-- The conversation with one client. -/
structure Session where
  arrivals : List Arrival
  outlet : Outlet := {}
  phase : Phase := .receiving
  /-- Bytes that do not make up a record yet. -/
  draft : Draft := {}
  /-- Where the reply begins, if the client asked for a place. -/
  place : Option Nat := none
  /-- How many lines were taken. -/
  lines : Nat := 0
  summary : Summary := {}

namespace Session

/-- A session, the log it works on, and whether the server stops. -/
structure Scene where
  session : Session
  log : SharedLog
  stopped : Bool := false

/-- Acts on a line of the client. -/
def take (s : Session) (log : SharedLog) (line : Bytes) :
    StateM Disk (Except Fault Unit × Session × SharedLog) := do
  if !line.endsLine then
    if line.isEmpty && s.lines != 0 then return (.ok (), { s with phase := .replying }, log)
    else
      let pending := s.draft.bytes.length + line.length
      return (.error (.protocol (.unterminated pending)), s, log)
  else
    let s := { s with lines := s.lines + 1 }
    match Request.ofLine line with
    | .error cause => return (.error (.protocol cause), s, log)
    | .ok (.seek index offset) =>
      match log.seek index offset with
      | .error cause => return (.error (.range cause), s, log)
      | .ok position =>
        let summary := { s.summary with seeks := s.summary.seeks + 1 }
        return (.ok (), { s with place := some position, summary }, log)
    | .ok (.record line) =>
      let (log, draft) ← log.write s.draft line
      let summary := { s.summary with records := s.summary.records + 1 }
      return (.ok (), { s with draft, summary, phase := .replying }, log)

/-- Reads a line of the client and acts on it. -/
def receive (scene : Scene) : StateM Disk (Except Fault Unit × Scene) := do
  let reading := Arrival.readLine scene.stopped scene.session.arrivals
  let s := { scene.session with arrivals := reading.left }
  match reading.result with
  | .error cause =>
    return (.error (.resource (.io cause)), { scene with session := s, stopped := reading.stopped })
  | .ok line =>
    let (outcome, session, log) ← s.take scene.log line
    return (outcome, { session, log, stopped := reading.stopped })

/-- Takes line after line while the session is receiving, at most `fuel` of them. -/
def receiveWithin : Nat → Scene → StateM Disk (Except Fault Unit × Scene)
  | 0, scene => return (.ok (), scene)
  | fuel + 1, scene => do
    if scene.session.phase ≠ .receiving then return (.ok (), scene)
    else
      match ← receive scene with
      | (.error cause, scene) => return (.error cause, scene)
      | (.ok _, scene) => receiveWithin fuel scene

/-- Takes line after line while the session is receiving. Every line but the last takes a byte
from the arrivals, so there are enough attempts. -/
def receiveAll (scene : Scene) : StateM Disk (Except Fault Unit × Scene) :=
  receiveWithin (Arrival.unread scene.session.arrivals + 2) scene

/-- What the reply is. -/
def content (s : Session) (log : SharedLog) : Bytes :=
  match s.place with
  | some position => log.readFrom position
  | none => log.snapshot

/-- Sends the reply. -/
def send (s : Session) (content : Bytes) : Except Fault Unit × Session :=
  let (outcome, outlet) := s.outlet.write content
  match outcome with
  | .error cause => (.error (.resource (.io cause)), { s with outlet })
  | .ok _ =>
    let (outcome, outlet) := outlet.flush
    match outcome with
    | .error cause => (.error (.resource (.io cause)), { s with outlet })
    | .ok _ =>
      (.ok (), { s with outlet, summary := { s.summary with replied := content.length } })

/-- Sends what the log holds now. -/
def reply (scene : Scene) : Except Fault Unit × Scene :=
  let (outcome, session) := scene.session.send (scene.session.content scene.log)
  (outcome, { scene with session })

/-- Ends the session and drops what is left of the draft. -/
def finish (s : Session) : Session := { s with phase := .finished, draft := {} }

/-- Serves the client. A session that is run again receives nothing more and replies once more. -/
def run (scene : Scene) : StateM Disk (Except Fault Summary × Scene) := do
  let (received, scene) ← receiveAll scene
  let (outcome, scene) : Except Fault Unit × Scene := match received with
    | .error cause => (.error cause, scene)
    | .ok _ => reply scene
  let scene := { scene with session := scene.session.finish }
  return (outcome.map fun _ => scene.session.summary, scene)

end Session

end BoundedLog
