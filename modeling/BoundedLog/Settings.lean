import BoundedLog.Fault
import BoundedLog.Files.Tree
import BoundedLog.Settings.Document
import BoundedLog.Text.Utf8

/-!
# Settings

The settings of the server come in layers: the defaults, then a document in JSON, then the
variables of the environment. A document is an object with the settings as members, or a list of
them in their order; it may leave settings out, and an object may hold other members as well.

The layer of the environment is applied variable by variable. A variable that cannot be read
ends it, and what was applied before stays.
-/

namespace BoundedLog

/-- The settings of the server. -/
structure Settings where
  /-- The address that clients connect to. -/
  address : String := "0.0.0.0:9000"
  /-- The file kept equal to the log, if there is one. -/
  replica : Option String := some "/var/tmp/aesdsocketdata"
  /-- Seconds between two time marks. -/
  pulseSeconds : Nat := 10
  /-- How long a session waits for its client before it looks whether the server stops. -/
  ioPollMillis : Nat := 250
  /-- How long the server waits for a client before it looks whether it stops. -/
  acceptPollMillis : Nat := 100
  /-- What is logged if the environment does not say. -/
  logLevel : String := "info"
  deriving DecidableEq, Repr

namespace Settings

/-- The interval between two time marks, in seconds, at least one. -/
def pulseInterval (s : Settings) : Nat := max s.pulseSeconds 1

/-- How long a session waits for its client, in milliseconds, at least one. -/
def ioPoll (s : Settings) : Nat := max s.ioPollMillis 1

/-- How long the server waits for a client, in milliseconds, at least one. -/
def acceptPoll (s : Settings) : Nat := max s.acceptPollMillis 1

/-- The settings with another interval between time marks, in whole seconds and at least one. -/
def withPulseMillis (s : Settings) (millis : Nat) : Settings :=
  { s with pulseSeconds := max (millis / 1000) 1 }

/-! ### The layer of a document -/

/-- The settings by name. -/
inductive Key
  | address
  | replica
  | pulseSeconds
  | ioPollMillis
  | acceptPollMillis
  | logLevel
  deriving DecidableEq, Repr

/-- The settings in the order of a list. -/
def Key.all : List Key :=
  [.address, .replica, .pulseSeconds, .ioPollMillis, .acceptPollMillis, .logLevel]

/-- The name of a setting in a document. -/
def Key.name : Key → String
  | address => "bind_addr"
  | replica => "mirror_path"
  | pulseSeconds => "heartbeat_interval_secs"
  | ioPollMillis => "io_poll_millis"
  | acceptPollMillis => "accept_poll_millis"
  | logLevel => "log_level"

/-- The setting with a name. -/
def Key.ofName? (name : String) : Option Key := Key.all.find? (·.name == name)

/-- The settings with one of them changed, if the value fits. -/
def set? (s : Settings) : Key → Document.Value → Option Settings
  | .address, .string (some text) => some { s with address := text }
  | .replica, .null => some { s with replica := none }
  | .replica, .string (some text) => some { s with replica := some text }
  | .pulseSeconds, .number (some n) => some { s with pulseSeconds := n }
  | .ioPollMillis, .number (some n) => some { s with ioPollMillis := n }
  | .acceptPollMillis, .number (some n) => some { s with acceptPollMillis := n }
  | .logLevel, .string (some text) => some { s with logLevel := text }
  | _, _ => none

/-- The settings changed by the members of an object, of which `seen` were set before. -/
def setMembers? (s : Settings) (seen : List Key) :
    List (Option String × Document.Value) → Option Settings
  | [] => some s
  | (none, _) :: _ => none
  | (some name, value) :: rest =>
    match Key.ofName? name with
    | none => setMembers? s seen rest
    | some key =>
      if seen.contains key then none
      else do setMembers? (← s.set? key value) (key :: seen) rest

/-- The settings changed by the items of a list, which stand for the given keys. -/
def setItems? (s : Settings) : List Key → List Document.Value → Option Settings
  | _, [] => some s
  | [], _ :: _ => none
  | key :: keys, value :: rest => do setItems? (← s.set? key value) keys rest

/-- The settings of a document. -/
def ofDocument (text : String) : Except Fault Settings :=
  let settings? := do
    match ← Document.parse? text with
    | .object members => ({} : Settings).setMembers? [] members
    | .list items => ({} : Settings).setItems? Key.all items
    | _ => none
  match settings? with
  | some settings => .ok settings
  | none => .error (.settings .malformed)

/-- The settings of the document at a path. -/
def ofFile (tree : Tree) (path : String) : Except Fault Settings :=
  let unreadable (cause : IoError) : Except Fault Settings :=
    .error (.settings (.unreadable path cause))
  match tree.read ⟨path⟩ with
  | .error cause => unreadable cause
  | .ok bytes =>
    match Text.Utf8.decode? bytes with
    | none => unreadable .notText
    | some text => ofDocument text

/-! ### The layer of the environment -/

/-- An environment gives some variables a text. -/
abbrev Environment := String → Option String

/-- The settings with the address of the environment. -/
def applyAddress (s : Settings) (env : Environment) : Settings :=
  match env "RINGLOG_BIND" with
  | none => s
  | some text => { s with address := text }

/-- The settings with the replica of the environment, which an empty text switches off. -/
def applyReplica (s : Settings) (env : Environment) : Settings :=
  match env "RINGLOG_MIRROR" with
  | none => s
  | some text => { s with replica := if text.isEmpty then none else some text }

/-- The settings with the interval of the environment. -/
def applyPulse (s : Settings) (env : Environment) : Except Fault Settings :=
  match env "RINGLOG_HEARTBEAT_SECS" with
  | none => .ok s
  | some text =>
    match Text.signedDecimal? Text.wordMax (text.toList.map Char.toNat) with
    | none => .error (.settings (.notANumber "RINGLOG_HEARTBEAT_SECS" text))
    | some n => .ok { s with pulseSeconds := n }

/-- Applies the variables of an environment in their order, until one cannot be read. -/
def apply (s : Settings) (env : Environment) : Except Fault Unit × Settings :=
  let s := (s.applyAddress env).applyReplica env
  match s.applyPulse env with
  | .ok s => (.ok (), s)
  | .error cause => (.error cause, s)

/-- The settings of all layers: the defaults or the document that the environment names, then the
environment itself. -/
def load (tree : Tree) (env : Environment) : Except Fault Settings := do
  let base ← match env "RINGLOG_CONFIG" with
    | none => .ok {}
    | some path => if path.isEmpty then .ok {} else ofFile tree path
  match base.apply env with
  | (.ok _, settings) => .ok settings
  | (.error cause, _) => .error cause

end Settings

end BoundedLog
