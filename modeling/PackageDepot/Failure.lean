namespace PackageDepot

inductive IoErrorKind where
  | notFound | permissionDenied | connectionRefused | connectionReset | hostUnreachable
  | networkUnreachable | connectionAborted | notConnected | addrInUse | addrNotAvailable
  | networkDown | brokenPipe | alreadyExists | wouldBlock | notADirectory | isADirectory
  | directoryNotEmpty | readOnlyFilesystem | filesystemLoop | staleNetworkFileHandle
  | invalidInput | invalidData | timedOut | writeZero | storageFull | notSeekable
  | quotaExceeded | fileTooLarge | resourceBusy | executableFileBusy | deadlock
  | crossesDevices | tooManyLinks | invalidFilename | argumentListTooLong | interrupted
  | unsupported | unexpectedEof | outOfMemory | inProgress | other | uncategorized
deriving DecidableEq, Repr

namespace IoErrorKind

def names : List (IoErrorKind × String) :=
  [(notFound, "NotFound"), (permissionDenied, "PermissionDenied"),
    (connectionRefused, "ConnectionRefused"), (connectionReset, "ConnectionReset"),
    (hostUnreachable, "HostUnreachable"), (networkUnreachable, "NetworkUnreachable"),
    (connectionAborted, "ConnectionAborted"), (notConnected, "NotConnected"),
    (addrInUse, "AddrInUse"), (addrNotAvailable, "AddrNotAvailable"),
    (networkDown, "NetworkDown"), (brokenPipe, "BrokenPipe"), (alreadyExists, "AlreadyExists"),
    (wouldBlock, "WouldBlock"), (notADirectory, "NotADirectory"), (isADirectory, "IsADirectory"),
    (directoryNotEmpty, "DirectoryNotEmpty"), (readOnlyFilesystem, "ReadOnlyFilesystem"),
    (filesystemLoop, "FilesystemLoop"), (staleNetworkFileHandle, "StaleNetworkFileHandle"),
    (invalidInput, "InvalidInput"), (invalidData, "InvalidData"), (timedOut, "TimedOut"),
    (writeZero, "WriteZero"), (storageFull, "StorageFull"), (notSeekable, "NotSeekable"),
    (quotaExceeded, "QuotaExceeded"), (fileTooLarge, "FileTooLarge"),
    (resourceBusy, "ResourceBusy"), (executableFileBusy, "ExecutableFileBusy"),
    (deadlock, "Deadlock"), (crossesDevices, "CrossesDevices"), (tooManyLinks, "TooManyLinks"),
    (invalidFilename, "InvalidFilename"), (argumentListTooLong, "ArgumentListTooLong"),
    (interrupted, "Interrupted"), (unsupported, "Unsupported"),
    (unexpectedEof, "UnexpectedEof"), (outOfMemory, "OutOfMemory"), (inProgress, "InProgress"),
    (other, "Other"), (uncategorized, "Uncategorized")]

def name (kind : IoErrorKind) : String :=
  (names.lookup kind).getD "Uncategorized"

def ofName? (name : String) : Option IoErrorKind :=
  (names.find? fun entry => entry.2 = name).map Prod.fst

theorem ofName?_name (kind : IoErrorKind) : ofName? kind.name = some kind := by
  cases kind <;> decide

end IoErrorKind

structure IoError where
  kind : IoErrorKind
  message : String
deriving DecidableEq, Repr

namespace IoError

def notFound : IoError := ⟨.notFound, "No such file or directory (os error 2)"⟩

def notADirectory : IoError := ⟨.notADirectory, "Not a directory (os error 20)"⟩

def isADirectory : IoError := ⟨.isADirectory, "Is a directory (os error 21)"⟩

def filesystemLoop : IoError := ⟨.filesystemLoop, "Too many levels of symbolic links (os error 40)"⟩

def nameTooLong : IoError := ⟨.invalidFilename, "File name too long (os error 36)"⟩

def zeroOctet : IoError := ⟨.invalidInput, "file name contained an unexpected NUL byte"⟩

/-- A file that should hold text is not UTF-8. -/
def notText : IoError := ⟨.invalidData, "stream did not contain valid UTF-8"⟩

def addressInUse : IoError := ⟨.addrInUse, "Address already in use (os error 98)"⟩

def addressNotAvailable : IoError :=
  ⟨.addrNotAvailable, "Cannot assign requested address (os error 99)"⟩

def noneInTime : IoError := ⟨.wouldBlock, "Resource temporarily unavailable (os error 11)"⟩

end IoError

/-- What is wrong with a catalog file, told by where reading it stopped: the text ended too soon, is
not JSON, or is JSON of another shape. -/
inductive FormatFault where
  | truncated
  | malformed
  | misshapen
deriving DecidableEq, Repr

inductive SignalFault where
  | system
  | multipleHandlers
deriving DecidableEq, Repr

def SignalFault.message : SignalFault → String
  | system => "Ctrl-C error: Unexpected system error"
  | multipleHandlers => "Ctrl-C error: Ctrl-C signal handler already registered"

/-- What stops the program or one connection. What a client does wrong is not among it: it is
answered. -/
inductive Failure where
  | bind (address : String) (source : IoError)
  | io (source : IoError)
  | config (reason : String)
  | catalog (reason : String)
  | catalogFormat (fault : FormatFault)
  | logging (reason : String)
  | signal (fault : SignalFault)
deriving DecidableEq, Repr

namespace Failure

def code : Failure → String
  | bind .. => "PKG001"
  | io _ => "PKG002"
  | config _ => "PKG003"
  | catalog _ => "PKG004"
  | catalogFormat _ => "PKG005"
  | logging _ => "PKG006"
  | signal _ => "PKG007"

/-- The failure in words. A format fault is named, not described. -/
def message : Failure → String
  | bind address source => "bind failed on " ++ address ++ ": " ++ source.message
  | io source => "I/O error: " ++ source.message
  | config reason => "configuration error: " ++ reason
  | catalog reason => "catalog error: " ++ reason
  | catalogFormat _ => "catalog format error"
  | logging reason => "logging error: " ++ reason
  | signal fault => "signal handler error: " ++ fault.message

/-- The failure of installing a log where one is installed already; a process has one log for good. -/
def logTaken : Failure :=
  logging "a global default trace dispatcher has already been set"

def source? : Failure → Option String
  | bind _ source => some source.message
  | io source => some source.message
  | signal fault => some fault.message
  | _ => none

end Failure

end PackageDepot
