import BoundedLog.Server.Address
import BoundedLog.Settings
import BoundedLog.SharedLog

/-!
# Listeners

Before a server runs it opens its log, takes hold of its address and makes the listener ready. The
replica comes first: if it cannot be made, nothing else is tried; if anything fails behind it, the
replica is given up again. What names stand for, which endpoints can be listened at and whether a
listener can be made ready is up to the `Network`.
-/

namespace BoundedLog

/-- What the network offers to a server. -/
structure Network where
  /-- The hosts that a name stands for. -/
  resolve : String → Except IoError (List Host)
  /-- Takes hold of an endpoint; service zero stands for any that is free. -/
  listen : Endpoint → Except IoError Endpoint
  /-- Keeps a listener from waiting where nobody connects. -/
  unblock : Endpoint → Except IoError Unit := fun _ => .ok ()
  /-- Asks a listener where it is, which is done only to log it. -/
  announce : Endpoint → Except IoError Unit := fun _ => .ok ()

/-- A log and the endpoint at which clients may connect to it. -/
structure Listener where
  endpoint : Endpoint
  log : SharedLog
  deriving DecidableEq, Repr

namespace Network

/-- Takes hold of the first of some endpoints that can be had, or says why the last one cannot. -/
def listenAtAny (network : Network) : List Endpoint → Except IoError Endpoint
  | [] => .error (.because .invalidInput "could not resolve to any addresses")
  | [last] => network.listen last
  | first :: others =>
    match network.listen first with
    | .ok endpoint => .ok endpoint
    | .error _ => listenAtAny network others

/-- Takes hold of an address. -/
def listenAt (network : Network) (text : String) : Except IoError Endpoint := do
  match ← Address.ofText text with
  | .endpoint endpoint => network.listenAtAny [endpoint]
  | .named host service =>
    network.listenAtAny ((← network.resolve host).map (⟨·, service⟩))

/-- Makes a listener ready. -/
def prepare (network : Network) (endpoint : Endpoint) : Except Fault Unit :=
  match network.unblock endpoint with
  | .error cause => .error (.setup (.listener cause))
  | .ok _ =>
    match network.announce endpoint with
    | .error cause => .error (.resource (.io cause))
    | .ok _ => .ok ()

/-- Takes hold of an address and makes the listener ready. -/
def establish (network : Network) (text : String) : Except Fault Endpoint :=
  match network.listenAt text with
  | .error cause => .error (.setup (.address text cause))
  | .ok endpoint => (network.prepare endpoint).map fun _ => endpoint

end Network

namespace Listener

/-- Opens the log that the settings ask for. -/
def openLog (settings : Settings) : StateM Disk (Except Fault SharedLog) := do
  match settings.replica with
  | none => return .ok (.ofCapacity Window.standardCapacity)
  | some path =>
    match ← (Replica.create ⟨path⟩).run with
    | .error cause => return .error (.setup (.replica path (.io cause)))
    | .ok replica => return .ok (.withReplica Window.standardCapacity replica)

/-- Opens the log that the settings ask for, then takes hold of the address and makes the listener
ready. -/
def bind (settings : Settings) (network : Network) : StateM Disk (Except Fault Listener) := do
  match ← openLog settings with
  | .error fault => return .error fault
  | .ok log =>
    match network.establish settings.address with
    | .ok endpoint => return .ok { endpoint, log }
    | .error fault =>
      log.release
      return .error fault

end Listener

end BoundedLog
