/-!
# Failures of input and output

An operation on a file or a stream fails with an `IoError`: the operating system's error number,
a kind with a reason of its own, or a kind alone. `IoError.kind` is what callers tell apart and
`IoError.message` is the text that people read.
-/

namespace BoundedLog

/-- What callers tell apart about a failure. -/
inductive IoErrorKind
  | notFound
  | permissionDenied
  | connectionReset
  | networkUnreachable
  | brokenPipe
  | alreadyExists
  | wouldBlock
  | notADirectory
  | isADirectory
  | directoryNotEmpty
  | readOnlyFilesystem
  | invalidInput
  | invalidData
  | timedOut
  | writeZero
  | storageFull
  | resourceBusy
  | invalidFilename
  | interrupted
  | unexpectedEof
  | outOfMemory
  | other
  | uncategorized
  deriving DecidableEq, Repr

/-- The kind in words. -/
def IoErrorKind.description : IoErrorKind → String
  | notFound => "entity not found"
  | permissionDenied => "permission denied"
  | connectionReset => "connection reset"
  | networkUnreachable => "network unreachable"
  | brokenPipe => "broken pipe"
  | alreadyExists => "entity already exists"
  | wouldBlock => "operation would block"
  | notADirectory => "not a directory"
  | isADirectory => "is a directory"
  | directoryNotEmpty => "directory not empty"
  | readOnlyFilesystem => "read-only filesystem or storage medium"
  | invalidInput => "invalid input parameter"
  | invalidData => "invalid data"
  | timedOut => "timed out"
  | writeZero => "write zero"
  | storageFull => "no storage space"
  | resourceBusy => "resource busy"
  | invalidFilename => "invalid filename"
  | interrupted => "operation interrupted"
  | unexpectedEof => "unexpected end of file"
  | outOfMemory => "out of memory"
  | other => "other error"
  | uncategorized => "uncategorized error"

/-- The operating system's texts for its error numbers, from number zero on. -/
def systemErrorTexts : Array String :=
  #["Success", "Operation not permitted", "No such file or directory", "No such process",
    "Interrupted system call", "Input/output error", "No such device or address",
    "Argument list too long", "Exec format error", "Bad file descriptor", "No child processes",
    "Resource temporarily unavailable", "Cannot allocate memory", "Permission denied",
    "Bad address", "Block device required", "Device or resource busy", "File exists",
    "Invalid cross-device link", "No such device", "Not a directory", "Is a directory",
    "Invalid argument", "Too many open files in system", "Too many open files",
    "Inappropriate ioctl for device", "Text file busy", "File too large",
    "No space left on device", "Illegal seek", "Read-only file system", "Too many links",
    "Broken pipe", "Numerical argument out of domain", "Numerical result out of range",
    "Resource deadlock avoided", "File name too long", "No locks available",
    "Function not implemented", "Directory not empty", "Too many levels of symbolic links",
    "Unknown error 41", "No message of desired type", "Identifier removed",
    "Channel number out of range", "Level 2 not synchronized", "Level 3 halted", "Level 3 reset",
    "Link number out of range", "Protocol driver not attached", "No CSI structure available",
    "Level 2 halted", "Invalid exchange", "Invalid request descriptor", "Exchange full",
    "No anode", "Invalid request code", "Invalid slot", "Unknown error 58",
    "Bad font file format", "Device not a stream", "No data available", "Timer expired",
    "Out of streams resources", "Machine is not on the network", "Package not installed",
    "Object is remote", "Link has been severed", "Advertise error", "Srmount error",
    "Communication error on send", "Protocol error", "Multihop attempted", "RFS specific error",
    "Bad message", "Value too large for defined data type", "Name not unique on network",
    "File descriptor in bad state", "Remote address changed",
    "Can not access a needed shared library", "Accessing a corrupted shared library",
    ".lib section in a.out corrupted", "Attempting to link in too many shared libraries",
    "Cannot exec a shared library directly", "Invalid or incomplete multibyte or wide character",
    "Interrupted system call should be restarted", "Streams pipe error", "Too many users",
    "Socket operation on non-socket", "Destination address required", "Message too long",
    "Protocol wrong type for socket", "Protocol not available", "Protocol not supported",
    "Socket type not supported", "Operation not supported", "Protocol family not supported",
    "Address family not supported by protocol", "Address already in use",
    "Cannot assign requested address", "Network is down", "Network is unreachable",
    "Network dropped connection on reset", "Software caused connection abort",
    "Connection reset by peer", "No buffer space available",
    "Transport endpoint is already connected", "Transport endpoint is not connected",
    "Cannot send after transport endpoint shutdown", "Too many references: cannot splice",
    "Connection timed out", "Connection refused", "Host is down", "No route to host",
    "Operation already in progress", "Operation now in progress", "Stale file handle",
    "Structure needs cleaning", "Not a XENIX named type file", "No XENIX semaphores available",
    "Is a named type file", "Remote I/O error", "Disk quota exceeded", "No medium found",
    "Wrong medium type", "Operation canceled", "Required key not available", "Key has expired",
    "Key has been revoked", "Key was rejected by service", "Owner died", "State not recoverable",
    "Operation not possible due to RF-kill", "Memory page has hardware error"]

/-- The operating system's text for an error number. -/
def systemErrorText (number : Int) : String :=
  match number with
  | .ofNat n => systemErrorTexts.getD n s!"Unknown error {n}"
  | .negSucc n => s!"Unknown error -{n + 1}"

/-- The kind of an error number of the operating system. -/
def systemErrorKind (number : Int) : IoErrorKind :=
  match number with
  | 1 | 13 => .permissionDenied
  | 2 => .notFound
  | 4 => .interrupted
  | 11 => .wouldBlock
  | 12 => .outOfMemory
  | 16 => .resourceBusy
  | 17 => .alreadyExists
  | 20 => .notADirectory
  | 21 => .isADirectory
  | 22 => .invalidInput
  | 28 => .storageFull
  | 30 => .readOnlyFilesystem
  | 32 => .brokenPipe
  | 36 => .invalidFilename
  | 39 => .directoryNotEmpty
  | 101 => .networkUnreachable
  | 104 => .connectionReset
  | 110 => .timedOut
  | _ => .uncategorized

/-- Why an operation on a file or a stream failed. -/
inductive IoError
  /-- The operating system refused, with this error number. -/
  | system (number : Int)
  /-- A failure of this kind, for this reason. -/
  | because (kind : IoErrorKind) (reason : String)
  /-- A failure of this kind, about which nothing more is known. -/
  | plain (kind : IoErrorKind)
  deriving DecidableEq, Repr

namespace IoError

/-- What callers tell apart about the failure. -/
def kind : IoError → IoErrorKind
  | system number => systemErrorKind number
  | because kind _ => kind
  | plain kind => kind

/-- The text of the failure. -/
def message : IoError → String
  | system number => s!"{systemErrorText number} (os error {number})"
  | because _ reason => reason
  | plain kind => kind.description

/-- Nothing is stored under the name. -/
def noSuchEntry : IoError := system 2

/-- The target is in use by the system. -/
def busy : IoError := system 16

/-- Something is stored under the name already. -/
def entryExists : IoError := system 17

/-- A file stands where a directory is needed. -/
def notDirectory : IoError := system 20

/-- A directory stands where a file is needed. -/
def isDirectory : IoError := system 21

/-- The name is longer than the file system can store. -/
def nameTooLong : IoError := system 36

/-- A path holds a null character. -/
def nullInPath : IoError :=
  because .invalidInput "file name contained an unexpected NUL byte"

/-- A stream ended before the demanded number of bytes was read. -/
def endedEarly : IoError := because .unexpectedEof "failed to fill whole buffer"

/-- A stream that was to be read as text is not UTF-8. -/
def notText : IoError := because .invalidData "stream did not contain valid UTF-8"

/-- A stream accepts no more bytes although some are left to write. -/
def acceptsNothing : IoError := because .writeZero "failed to write whole buffer"

/-- The server stops while a client is still silent. -/
def shuttingDown : IoError := because .interrupted "server shutting down"

/-- Whether the failure says only that nothing arrived in time. -/
def isTimeout (e : IoError) : Bool := e.kind == .wouldBlock || e.kind == .timedOut

end IoError

end BoundedLog
