import BoundedLog.IoError
import BoundedLog.Text.Quoted

/-!
# Faults

A fault is a cause, grouped by how the server reacts to it: a client broke the protocol, a seek
asked for a place that the log does not hold, a resource failed, or the server could not be set
up or configured. `Fault.message` words every cause, and `Fault.label` names its group.
-/

namespace BoundedLog

/-- A client sent what the protocol does not allow. -/
inductive ProtocolFault
  /-- A line begins like a seek but is none; the text is the line. -/
  | malformedSeek (text : String)
  /-- The stream ended inside a line of this many bytes, or before the first line. -/
  | unterminated (pending : Nat)
  deriving DecidableEq, Repr

/-- A seek asked for a place that the log does not hold. -/
inductive RangeFault
  /-- There are only `count` records. -/
  | noRecord (index count : Nat)
  /-- The record has only `length` bytes. -/
  | noByte (index offset length : Nat)
  /-- The position is outside a log of `size` bytes. -/
  | noPosition (target : Int) (size : Nat)
  deriving DecidableEq, Repr

/-- A resource failed. -/
inductive ResourceFault
  /-- There is no memory for this many bytes. -/
  | allocation (requested : Nat)
  /-- An operation on a file or a stream failed. -/
  | io (cause : IoError)
  /-- The replica could not be brought up to date. -/
  | replica (reason : String)
  deriving DecidableEq, Repr

/-- The server could not be set up. -/
inductive SetupFault
  /-- The replica at this path could not be made. -/
  | replica (path : String) (cause : ResourceFault)
  /-- Nobody can connect to this address. -/
  | address (text : String) (cause : IoError)
  /-- The listener cannot be made ready. -/
  | listener (cause : IoError)
  | other (reason : String)
  deriving DecidableEq, Repr

/-- The settings could not be read. -/
inductive SettingsFault
  /-- The file at this path could not be read. -/
  | unreadable (path : String) (cause : IoError)
  /-- The document is none, or not one of settings. -/
  | malformed
  /-- The value of the variable of this name is no number. -/
  | notANumber (name value : String)
  | other (reason : String)
  deriving DecidableEq, Repr

/-- A cause that the server reports. -/
inductive Fault
  | protocol (cause : ProtocolFault)
  | range (cause : RangeFault)
  | resource (cause : ResourceFault)
  | setup (cause : SetupFault)
  | settings (cause : SettingsFault)
  deriving DecidableEq, Repr

/-- The wording of a protocol fault. -/
def ProtocolFault.message : ProtocolFault → String
  | malformedSeek text => s!"malformed seek directive: {Text.quote text}"
  | unterminated pending => s!"stream closed with {pending} unterminated bytes"

/-- The wording of a range fault. -/
def RangeFault.message : RangeFault → String
  | noRecord index count => s!"record index {index} out of range (store holds {count} records)"
  | noByte index offset length =>
    s!"offset {offset} out of range for record {index} of length {length}"
  | noPosition target size => s!"seek target {target} outside store of {size} bytes"

/-- The wording of a resource fault. -/
def ResourceFault.message : ResourceFault → String
  | allocation requested => s!"failed to allocate {requested} bytes"
  | io cause => s!"I/O error: {cause.message}"
  | replica reason => s!"mirror update failed: {reason}"

/-- The wording of a fault of setting up. -/
def SetupFault.message : SetupFault → String
  | replica path cause => s!"mirror {path}: {cause.message}"
  | address text cause => s!"bind {text}: {cause.message}"
  | listener cause => s!"listener: {cause.message}"
  | other reason => reason

/-- The wording of a fault of the settings. -/
def SettingsFault.message : SettingsFault → String
  | unreadable path cause => s!"{path}: {cause.message}"
  | malformed => "malformed document"
  | notANumber name value => s!"{name}: not a number: {Text.quote value}"
  | other reason => reason

/-- The wording of a fault. -/
def Fault.message : Fault → String
  | protocol cause => cause.message
  | range cause => cause.message
  | resource cause => cause.message
  | setup cause => s!"setup failed: {cause.message}"
  | settings cause => s!"configuration error: {cause.message}"

/-- The name of the group of a fault. -/
def Fault.label : Fault → String
  | protocol _ => "protocol"
  | range _ => "range"
  | resource _ => "resource"
  | setup _ => "setup"
  | settings _ => "config"

end BoundedLog
