/-!
What can go wrong when bytes are written, with the kind and the wording of each fault.
-/

namespace CaptureProbe

inductive FaultKind where
  | brokenPipe
  | permissionDenied
  | wouldBlock
  | unexpectedEnd
  | other
  | writeZero
  | storageFull
  | notFound
  | isADirectory
  | notADirectory
  | invalidFilename
  | invalidInput
  | readOnlyFilesystem
  | filesystemLoop
  | uncategorized
  deriving DecidableEq, Repr

inductive Fault where
  | closed (kind : FaultKind)
  | flushFailed (kind : FaultKind)
  /-- A full stream took nothing of what a caller wrote. -/
  | stalled
  /-- A full stream took nothing of what a buffer held. -/
  | bufferStalled
  | noSpace
  | noSuchFile
  | isDirectory
  | notDirectory
  | nameTooLong
  | nulInPath
  | noDevice
  | readOnly
  | notPermitted
  | tooManyLinks
  deriving DecidableEq, Repr

namespace Fault

def kind : Fault → FaultKind
  | .closed kind => kind
  | .flushFailed kind => kind
  | .stalled => .writeZero
  | .bufferStalled => .writeZero
  | .noSpace => .storageFull
  | .noSuchFile => .notFound
  | .isDirectory => .isADirectory
  | .notDirectory => .notADirectory
  | .nameTooLong => .invalidFilename
  | .nulInPath => .invalidInput
  | .noDevice => .uncategorized
  | .readOnly => .readOnlyFilesystem
  | .notPermitted => .permissionDenied
  | .tooManyLinks => .filesystemLoop

def message : Fault → String
  | .closed _ => "closed"
  | .flushFailed _ => "flush failed"
  | .stalled => "failed to write whole buffer"
  | .bufferStalled => "failed to write the buffered data"
  | .noSpace => "No space left on device (os error 28)"
  | .noSuchFile => "No such file or directory (os error 2)"
  | .isDirectory => "Is a directory (os error 21)"
  | .notDirectory => "Not a directory (os error 20)"
  | .nameTooLong => "File name too long (os error 36)"
  | .nulInPath => "file name contained an unexpected NUL byte"
  | .noDevice => "No such device or address (os error 6)"
  | .readOnly => "Read-only file system (os error 30)"
  | .notPermitted => "Permission denied (os error 13)"
  | .tooManyLinks => "Too many levels of symbolic links (os error 40)"

end Fault
end CaptureProbe
