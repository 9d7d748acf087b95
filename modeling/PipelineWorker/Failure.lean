/-
Failures of the operating system: their kinds, the error numbers behind them, and their texts.

A failed call ends in an `OsFailure`.  Callers above decide by its `kind` alone; the number and
the text only show in reports.  A failure without a number carries a kind, with a text of its own
where the library words one.
-/

namespace PipelineWorker

/-- What sort of thing went wrong, whatever the number behind it. -/
inductive FailureKind
  | notFound | permissionDenied | connectionRefused | connectionReset | hostUnreachable
  | networkUnreachable | connectionAborted | notConnected | addrInUse | addrNotAvailable
  | networkDown | brokenPipe | alreadyExists | wouldBlock | notADirectory | isADirectory
  | directoryNotEmpty | readOnlyFilesystem | filesystemLoop | staleNetworkFileHandle
  | invalidInput | invalidData | timedOut | writeZero | storageFull | notSeekable
  | quotaExceeded | fileTooLarge | resourceBusy | executableFileBusy | deadlock
  | crossesDevices | tooManyLinks | invalidFilename | argumentListTooLong | interrupted
  | unsupported | unexpectedEof | outOfMemory | inProgress | other | uncategorized
  deriving DecidableEq, Repr, Inhabited

namespace FailureKind

/-- The name a report gives the kind. -/
def name : FailureKind → String
  | notFound => "NotFound"
  | permissionDenied => "PermissionDenied"
  | connectionRefused => "ConnectionRefused"
  | connectionReset => "ConnectionReset"
  | hostUnreachable => "HostUnreachable"
  | networkUnreachable => "NetworkUnreachable"
  | connectionAborted => "ConnectionAborted"
  | notConnected => "NotConnected"
  | addrInUse => "AddrInUse"
  | addrNotAvailable => "AddrNotAvailable"
  | networkDown => "NetworkDown"
  | brokenPipe => "BrokenPipe"
  | alreadyExists => "AlreadyExists"
  | wouldBlock => "WouldBlock"
  | notADirectory => "NotADirectory"
  | isADirectory => "IsADirectory"
  | directoryNotEmpty => "DirectoryNotEmpty"
  | readOnlyFilesystem => "ReadOnlyFilesystem"
  | filesystemLoop => "FilesystemLoop"
  | staleNetworkFileHandle => "StaleNetworkFileHandle"
  | invalidInput => "InvalidInput"
  | invalidData => "InvalidData"
  | timedOut => "TimedOut"
  | writeZero => "WriteZero"
  | storageFull => "StorageFull"
  | notSeekable => "NotSeekable"
  | quotaExceeded => "QuotaExceeded"
  | fileTooLarge => "FileTooLarge"
  | resourceBusy => "ResourceBusy"
  | executableFileBusy => "ExecutableFileBusy"
  | deadlock => "Deadlock"
  | crossesDevices => "CrossesDevices"
  | tooManyLinks => "TooManyLinks"
  | invalidFilename => "InvalidFilename"
  | argumentListTooLong => "ArgumentListTooLong"
  | interrupted => "Interrupted"
  | unsupported => "Unsupported"
  | unexpectedEof => "UnexpectedEof"
  | outOfMemory => "OutOfMemory"
  | inProgress => "InProgress"
  | other => "Other"
  | uncategorized => "Uncategorized"

/-- Every kind, in the order of declaration. -/
def all : List FailureKind :=
  [notFound, permissionDenied, connectionRefused, connectionReset, hostUnreachable,
    networkUnreachable, connectionAborted, notConnected, addrInUse, addrNotAvailable,
    networkDown, brokenPipe, alreadyExists, wouldBlock, notADirectory, isADirectory,
    directoryNotEmpty, readOnlyFilesystem, filesystemLoop, staleNetworkFileHandle,
    invalidInput, invalidData, timedOut, writeZero, storageFull, notSeekable,
    quotaExceeded, fileTooLarge, resourceBusy, executableFileBusy, deadlock,
    crossesDevices, tooManyLinks, invalidFilename, argumentListTooLong, interrupted,
    unsupported, unexpectedEof, outOfMemory, inProgress, other, uncategorized]

/-- The kind of that name. -/
def ofName? (s : String) : Option FailureKind := all.find? (·.name == s)

/-- The ways in which the other end of a stream goes away: an orderly close, a reset, an abort or
a write into a closed pipe. -/
def isDisconnect : FailureKind → Bool
  | unexpectedEof | connectionReset | connectionAborted | brokenPipe | notConnected => true
  | _ => false

end FailureKind

/-- The error numbers that calls on sockets and files end with. -/
inductive Errno
  | connReset | connAborted | connRefused | pipe | notConn | intr | again | timedOut | acces
  | noMem | hostUnreach | netUnreach | noEnt | isDir | notDir | exist | nameTooLong
  deriving DecidableEq, Repr, Inhabited

namespace Errno

/-- Every error number, in the order of declaration. -/
def all : List Errno :=
  [connReset, connAborted, connRefused, pipe, notConn, intr, again, timedOut, acces,
    noMem, hostUnreach, netUnreach, noEnt, isDir, notDir, exist, nameTooLong]

/-- The symbol that system headers use. -/
def symbol : Errno → String
  | connReset => "ECONNRESET"
  | connAborted => "ECONNABORTED"
  | connRefused => "ECONNREFUSED"
  | pipe => "EPIPE"
  | notConn => "ENOTCONN"
  | intr => "EINTR"
  | again => "EAGAIN"
  | timedOut => "ETIMEDOUT"
  | acces => "EACCES"
  | noMem => "ENOMEM"
  | hostUnreach => "EHOSTUNREACH"
  | netUnreach => "ENETUNREACH"
  | noEnt => "ENOENT"
  | isDir => "EISDIR"
  | notDir => "ENOTDIR"
  | exist => "EEXIST"
  | nameTooLong => "ENAMETOOLONG"

/-- The number itself. -/
def code : Errno → Nat
  | connReset => 104
  | connAborted => 103
  | connRefused => 111
  | pipe => 32
  | notConn => 107
  | intr => 4
  | again => 11
  | timedOut => 110
  | acces => 13
  | noMem => 12
  | hostUnreach => 113
  | netUnreach => 101
  | noEnt => 2
  | isDir => 21
  | notDir => 20
  | exist => 17
  | nameTooLong => 36

/-- The sort of failure that the number stands for. -/
def kind : Errno → FailureKind
  | connReset => .connectionReset
  | connAborted => .connectionAborted
  | connRefused => .connectionRefused
  | pipe => .brokenPipe
  | notConn => .notConnected
  | intr => .interrupted
  | again => .wouldBlock
  | timedOut => .timedOut
  | acces => .permissionDenied
  | noMem => .outOfMemory
  | hostUnreach => .hostUnreachable
  | netUnreach => .networkUnreachable
  | noEnt => .notFound
  | isDir => .isADirectory
  | notDir => .notADirectory
  | exist => .alreadyExists
  | nameTooLong => .invalidFilename

/-- The system's description of the number. -/
def text : Errno → String
  | connReset => "Connection reset by peer"
  | connAborted => "Software caused connection abort"
  | connRefused => "Connection refused"
  | pipe => "Broken pipe"
  | notConn => "Transport endpoint is not connected"
  | intr => "Interrupted system call"
  | again => "Resource temporarily unavailable"
  | timedOut => "Connection timed out"
  | acces => "Permission denied"
  | noMem => "Cannot allocate memory"
  | hostUnreach => "No route to host"
  | netUnreach => "Network is unreachable"
  | noEnt => "No such file or directory"
  | isDir => "Is a directory"
  | notDir => "Not a directory"
  | exist => "File exists"
  | nameTooLong => "File name too long"

/-- The error number of that symbol. -/
def ofSymbol? (s : String) : Option Errno := all.find? (·.symbol == s)

end Errno

/-- How a call on a socket, a stream or a file failed. -/
inductive OsFailure
  /-- A failure without an error number. -/
  | plain (kind : FailureKind)
  /-- A failure that the system reported by number. -/
  | number (errno : Errno)
  /-- A failure that comes with a wording of its own. -/
  | worded (kind : FailureKind) (text : String)
  deriving DecidableEq, Repr, Inhabited

namespace OsFailure

/-- The sort of failure. -/
def kind : OsFailure → FailureKind
  | plain k => k
  | number e => e.kind
  | worded k _ => k

/-- The text of the failure. -/
def message : OsFailure → String
  | plain k => k.name
  | number e => s!"{e.text} (os error {e.code})"
  | worded _ text => text

/-- The failure with its parts spelled out. -/
def detail : OsFailure → String
  | plain k => s!"Kind({k.name})"
  | number e => "Os \x7b code: " ++ toString e.code ++ ", kind: " ++ e.kind.name ++
      ", message: \"" ++ e.text ++ "\" \x7d"
  | worded k text => "Error \x7b kind: " ++ k.name ++ ", message: \"" ++ text ++ "\" \x7d"

end OsFailure

end PipelineWorker
