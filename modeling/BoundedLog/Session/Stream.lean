import BoundedLog.Bytes
import BoundedLog.IoError

/-!
# Streams of a connection

What arrives at a connection is a list of arrivals: bytes, failures of the transport, and the
moment at which the server is told to stop. Behind the last arrival the client has finished.
`Arrival.readLine` takes arrivals until a line is complete: it begins again after an interruption
and after a timeout, unless the server stops, and gives up on any other failure.

What leaves a connection is described by an `Outlet`: how the transport will answer to each attempt
to write and to each flush, and what it has accepted so far. An attempt may be accepted in part; an
attempt that is interrupted is made again. Every attempt uses an answer up, so whoever writes later
meets the answers that are left.
-/

namespace BoundedLog

/-- One thing that arrives at a connection. -/
inductive Arrival
  | bytes (chunk : Bytes)
  | failure (cause : IoError)
  /-- The server is told to stop. -/
  | stop
  deriving DecidableEq, Repr

namespace Arrival

/-- The number of bytes still to be read. -/
def unread : List Arrival → Nat
  | [] => 0
  | .bytes chunk :: rest => chunk.length + unread rest
  | _ :: rest => unread rest

/-- What reading a line came to: the line or a failure, whether the server stops by now, and the
arrivals that are left. -/
structure Reading where
  result : Except IoError Bytes
  stopped : Bool
  left : List Arrival

/-- Reads a line of which `line` has been read already. At the end of the stream the line is what
was read, without a newline. -/
def readLineFrom (line : Bytes) (stopped : Bool) : List Arrival → Reading
  | [] => ⟨.ok line, stopped, []⟩
  | .bytes chunk :: rest =>
    match chunk.cutLine? with
    | some (front, others) => ⟨.ok (line ++ front), stopped, .bytes others :: rest⟩
    | none => readLineFrom (line ++ chunk) stopped rest
  | .failure cause :: rest =>
    if cause.kind = .interrupted then readLineFrom line stopped rest
    else if cause.isTimeout then
      if stopped then ⟨.error .shuttingDown, stopped, rest⟩ else readLineFrom line stopped rest
    else ⟨.error cause, stopped, rest⟩
  | .stop :: rest => readLineFrom line true rest

/-- Whether reading a line comes to an end with these arrivals, although more may follow. -/
def endsReading (stopped : Bool) : List Arrival → Bool
  | [] => false
  | .bytes chunk :: rest => chunk.contains newline || endsReading stopped rest
  | .failure cause :: rest =>
    if cause.kind = .interrupted then endsReading stopped rest
    else if cause.isTimeout then stopped || endsReading stopped rest
    else true
  | .stop :: rest => endsReading true rest

/-- Reads a line. -/
def readLine (stopped : Bool) (arrivals : List Arrival) : Reading :=
  readLineFrom [] stopped arrivals

end Arrival

/-- How the transport answers to an attempt to write. -/
inductive WriteAnswer
  /-- It accepts at most this many bytes. -/
  | accept (limit : Nat)
  /-- It accepts nothing; an attempt that was interrupted is made again. -/
  | refuse (cause : IoError)
  deriving DecidableEq, Repr

/-- The way out of a connection. -/
structure Outlet where
  /-- How the transport answers to the next attempts to write. Behind them it accepts everything. -/
  answers : List WriteAnswer := []
  /-- Why the next flushes fail, if they do. Behind them none fails. -/
  flushFailures : List (Option IoError) := []
  /-- What was accepted so far. -/
  accepted : Bytes := []
  /-- How often a flush was tried. -/
  flushes : Nat := 0
  deriving DecidableEq, Repr

namespace Outlet

/-- What the attempts to write came to: how many bytes were accepted, whether these are all, and the
answers that are left. -/
structure Push where
  count : Nat
  outcome : Except IoError Unit
  left : List WriteAnswer

/-- Makes attempts to write `remaining` bytes until all of them are accepted or one fails. -/
def push : List WriteAnswer → (remaining : Nat) → Push
  | answers, 0 => ⟨0, .ok (), answers⟩
  | [], remaining => ⟨remaining, .ok (), []⟩
  | .accept 0 :: answers, _ => ⟨0, .error .acceptsNothing, answers⟩
  | .accept (limit + 1) :: answers, remaining =>
    let taken := min (limit + 1) remaining
    let more := push answers (remaining - taken)
    { more with count := taken + more.count }
  | .refuse cause :: answers, remaining =>
    if cause.kind = .interrupted then push answers remaining else ⟨0, .error cause, answers⟩

/-- Writes bytes, in as many attempts as it takes. -/
def write (o : Outlet) (bytes : Bytes) : Except IoError Unit × Outlet :=
  let pushed := push o.answers bytes.length
  (pushed.outcome,
    { o with answers := pushed.left, accepted := o.accepted ++ bytes.take pushed.count })

/-- Asks the transport to pass on what it has accepted. -/
def flush (o : Outlet) : Except IoError Unit × Outlet :=
  let next := { o with flushFailures := o.flushFailures.tail, flushes := o.flushes + 1 }
  match o.flushFailures with
  | some cause :: _ => (.error cause, next)
  | _ => (.ok (), next)

end Outlet

end BoundedLog
