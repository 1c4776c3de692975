import GatewayTunnel.Text.Numeral

namespace GatewayTunnel

inductive IoError.Kind where
  | addrInUse
  | addrNotAvailable
  | alreadyExists
  | brokenPipe
  | connectionAborted
  | connectionRefused
  | connectionReset
  | directoryNotEmpty
  | fileTooLarge
  | filesystemLoop
  | hostUnreachable
  | interrupted
  | invalidData
  | invalidFilename
  | invalidInput
  | isADirectory
  | networkDown
  | networkUnreachable
  | notADirectory
  | notConnected
  | notFound
  | other
  | outOfMemory
  | permissionDenied
  | readOnlyFilesystem
  | storageFull
  | timedOut
  | uncategorized
  | unexpectedEof
  | unsupported
  | wouldBlock
  | writeZero
  deriving DecidableEq, Repr, Inhabited

def IoError.Kind.message : IoError.Kind → String
  | addrInUse => "address in use"
  | addrNotAvailable => "address not available"
  | alreadyExists => "entity already exists"
  | brokenPipe => "broken pipe"
  | connectionAborted => "connection aborted"
  | connectionRefused => "connection refused"
  | connectionReset => "connection reset"
  | directoryNotEmpty => "directory not empty"
  | fileTooLarge => "file too large"
  | filesystemLoop => "filesystem loop or indirection limit (e.g. symlink loop)"
  | hostUnreachable => "host unreachable"
  | interrupted => "operation interrupted"
  | invalidData => "invalid data"
  | invalidFilename => "invalid filename"
  | invalidInput => "invalid input parameter"
  | isADirectory => "is a directory"
  | networkDown => "network down"
  | networkUnreachable => "network unreachable"
  | notADirectory => "not a directory"
  | notConnected => "not connected"
  | notFound => "entity not found"
  | other => "other error"
  | outOfMemory => "out of memory"
  | permissionDenied => "permission denied"
  | readOnlyFilesystem => "read-only filesystem or storage medium"
  | storageFull => "no storage space"
  | timedOut => "timed out"
  | uncategorized => "uncategorized error"
  | unexpectedEof => "unexpected end of file"
  | unsupported => "unsupported"
  | wouldBlock => "operation would block"
  | writeZero => "write zero"

inductive IoError where
  | bare (kind : IoError.Kind)
  | described (kind : IoError.Kind) (text : String)
  | system (code : Nat)
  deriving DecidableEq, Repr, Inhabited

namespace IoError

def systemErrors : List (Nat × Kind × String) := [
  (1, .permissionDenied, "Operation not permitted"),
  (2, .notFound, "No such file or directory"),
  (4, .interrupted, "Interrupted system call"),
  (12, .outOfMemory, "Cannot allocate memory"),
  (13, .permissionDenied, "Permission denied"),
  (17, .alreadyExists, "File exists"),
  (20, .notADirectory, "Not a directory"),
  (21, .isADirectory, "Is a directory"),
  (22, .invalidInput, "Invalid argument"),
  (27, .fileTooLarge, "File too large"),
  (28, .storageFull, "No space left on device"),
  (30, .readOnlyFilesystem, "Read-only file system"),
  (32, .brokenPipe, "Broken pipe"),
  (36, .invalidFilename, "File name too long"),
  (39, .directoryNotEmpty, "Directory not empty"),
  (40, .filesystemLoop, "Too many levels of symbolic links"),
  (98, .addrInUse, "Address already in use"),
  (99, .addrNotAvailable, "Cannot assign requested address"),
  (100, .networkDown, "Network is down"),
  (101, .networkUnreachable, "Network is unreachable"),
  (103, .connectionAborted, "Software caused connection abort"),
  (104, .connectionReset, "Connection reset by peer"),
  (107, .notConnected, "Transport endpoint is not connected"),
  (110, .timedOut, "Connection timed out"),
  (111, .connectionRefused, "Connection refused"),
  (113, .hostUnreachable, "No route to host")]

def kind : IoError → Kind
  | bare kind => kind
  | described kind _ => kind
  | system code => ((systemErrors.lookup code).map (·.1)).getD .uncategorized

def message : IoError → String
  | bare kind => kind.message
  | described _ text => text
  | system code =>
    let text :=
      ((systemErrors.lookup code).map (·.2)).getD ("Unknown error " ++ Text.Numeral.text code)
    text ++ " (os error " ++ Text.Numeral.text code ++ ")"

end IoError

end GatewayTunnel
