/-
Failures: what an error says of itself when it reaches the boundary. That is the path of its type,
the origin it claims for itself if it claims one, and its text. Everything downstream sees an error
only through these three.

The second half gives the failures of the standard operations: the system calls, the numeral
readers, the narrowing to a byte and the UTF-8 reader. They name the built-in exception that matches
and claim the built-in origin.
-/
import FaultCodes.TypePath
import FaultCodes.Origin
import FaultCodes.Text.Utf8

namespace FaultCodes

/-- an error as the boundary sees it -/
structure Failure where
  path : TypePath
  hint : Option Origin
  text : Text
  deriving DecidableEq, Repr

/-- an error raised outside this program and handed over as plain data -/
structure ForeignError where
  module : Text
  typeName : Text
  message : Text
  deriving DecidableEq, Repr

namespace ForeignError

/-- the error whose type has this qualified path -/
def ofQualified (path message : Text) : ForeignError :=
  ⟨(TypePath.ofQualified path).module, (TypePath.ofQualified path).name, message⟩

def path (e : ForeignError) : TypePath :=
  ⟨e.module, e.typeName⟩

/-- seen from the boundary; it claims no origin -/
def failure (e : ForeignError) : Failure :=
  ⟨e.path, none, e.message⟩

/-- the inspection text, which keeps the message to itself -/
def inspect (e : ForeignError) : Text :=
  Inspect.record "ForeignError"
    [("module", Text.quoted e.module), ("type_name", Text.quoted e.typeName),
     ("message", Text.quoted "<REDACTED>")]

end ForeignError

namespace Failure

/-- a failure of a standard operation, under the name of the built-in exception that matches it -/
def standard (name text : Text) : Failure :=
  ⟨⟨"builtins", name⟩, some .builtin, text⟩

/-- a value that could not be accepted -/
def badValue (text : Text) : Failure :=
  standard "ValueError" text

end Failure

/-- what went wrong in a system call -/
inductive SystemFailure where
  | notFound
  | permissionDenied
  | connectionRefused
  | connectionReset
  | hostUnreachable
  | networkUnreachable
  | connectionAborted
  | notConnected
  | addressInUse
  | addressNotAvailable
  | networkDown
  | brokenPipe
  | alreadyExists
  | wouldBlock
  | notADirectory
  | isADirectory
  | directoryNotEmpty
  | readOnlyFilesystem
  | staleNetworkFileHandle
  | invalidInput
  | invalidData
  | timedOut
  | writeZero
  | storageFull
  | notSeekable
  | quotaExceeded
  | fileTooLarge
  | resourceBusy
  | executableFileBusy
  | deadlock
  | crossesDevices
  | tooManyLinks
  | invalidFilename
  | argumentListTooLong
  | interrupted
  | unsupported
  | unexpectedEnd
  | outOfMemory
  | unnamed
  deriving DecidableEq, Repr

namespace SystemFailure

def exceptionName : SystemFailure → Text
  | notFound => "FileNotFoundError"
  | permissionDenied => "PermissionError"
  | connectionRefused => "ConnectionRefusedError"
  | connectionReset => "ConnectionResetError"
  | connectionAborted => "ConnectionAbortedError"
  | hostUnreachable => "ConnectionError"
  | networkUnreachable => "ConnectionError"
  | notConnected => "ConnectionError"
  | brokenPipe => "BrokenPipeError"
  | alreadyExists => "FileExistsError"
  | wouldBlock => "BlockingIOError"
  | isADirectory => "IsADirectoryError"
  | notADirectory => "NotADirectoryError"
  | invalidInput => "ValueError"
  | invalidData => "ValueError"
  | timedOut => "TimeoutError"
  | interrupted => "InterruptedError"
  | unsupported => "NotImplementedError"
  | unexpectedEnd => "EOFError"
  | outOfMemory => "MemoryError"
  | _ => "OSError"

/-- the text when the failure brings none of its own -/
def standardText : SystemFailure → Text
  | notFound => "entity not found"
  | permissionDenied => "permission denied"
  | connectionRefused => "connection refused"
  | connectionReset => "connection reset"
  | hostUnreachable => "host unreachable"
  | networkUnreachable => "network unreachable"
  | connectionAborted => "connection aborted"
  | notConnected => "not connected"
  | addressInUse => "address in use"
  | addressNotAvailable => "address not available"
  | networkDown => "network down"
  | brokenPipe => "broken pipe"
  | alreadyExists => "entity already exists"
  | wouldBlock => "operation would block"
  | notADirectory => "not a directory"
  | isADirectory => "is a directory"
  | directoryNotEmpty => "directory not empty"
  | readOnlyFilesystem => "read-only filesystem or storage medium"
  | staleNetworkFileHandle => "stale network file handle"
  | invalidInput => "invalid input parameter"
  | invalidData => "invalid data"
  | timedOut => "timed out"
  | writeZero => "write zero"
  | storageFull => "no storage space"
  | notSeekable => "seek on unseekable file"
  | quotaExceeded => "quota exceeded"
  | fileTooLarge => "file too large"
  | resourceBusy => "resource busy"
  | executableFileBusy => "executable file busy"
  | deadlock => "deadlock"
  | crossesDevices => "cross-device link or rename"
  | tooManyLinks => "too many links"
  | invalidFilename => "invalid filename"
  | argumentListTooLong => "argument list too long"
  | interrupted => "operation interrupted"
  | unsupported => "unsupported"
  | unexpectedEnd => "unexpected end of file"
  | outOfMemory => "out of memory"
  | unnamed => "other error"

/-- seen from the boundary, with a text of its own or the standard one -/
def failure (k : SystemFailure) (text : Option Text) : Failure :=
  .standard k.exceptionName (text.getD k.standardText)

end SystemFailure

/-- a text that is no 32-bit integer -/
def Decimal.IntegerProblem.failure (p : Decimal.IntegerProblem) : Failure :=
  .badValue p.message

/-- a text that is no floating-point literal -/
def Decimal.LiteralProblem.failure (p : Decimal.LiteralProblem) : Failure :=
  .badValue p.message

/-- bytes that are no UTF-8 -/
def Utf8.Break.failure (b : Utf8.Break) : Failure :=
  .standard "UnicodeDecodeError" b.message

namespace Failure

/-- why reading a 32-bit integer fails, if it does -/
def ofInteger? (t : Text) : Option Failure :=
  match Decimal.readInt32 t with
  | .ok _ => none
  | .error p => some p.failure

/-- why reading a floating-point literal fails, if it does -/
def ofLiteral? (t : Text) : Option Failure :=
  (Decimal.literalProblem? t).map (·.failure)

/-- why narrowing an integer to a byte fails, if it does -/
def ofByte? (n : Int) : Option Failure :=
  if n < 0 then some (.standard "OverflowError" Decimal.IntegerProblem.tooSmall.message)
  else if 255 < n then some (.standard "OverflowError" Decimal.IntegerProblem.tooLarge.message)
  else none

/-- why decoding bytes as UTF-8 fails, if it does -/
def ofBytes? (bs : List UInt8) : Option Failure :=
  (Utf8.break? bs).map (·.failure)

end Failure

end FaultCodes
