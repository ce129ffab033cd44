import FsGateway.Client.Http
import FsGateway.Wire.Encoding

/-!
# Failures

Why a forwarded operation fails, and the error number that the kernel sees for it.

* `toErrno`: the number that the backend gave, if it is positive, or else one that depends on
  where the failure came from.
-/

namespace FsGateway

/-! ## Error numbers -/

/-- A number that says why an operation fails. -/
abbrev Errno := Int32

namespace Errno

/-- No such file or directory. -/
def enoent : Errno := 2
/-- Interrupted call. -/
def eintr : Errno := 4
/-- Input or output error. -/
def eio : Errno := 5
/-- File exists. -/
def eexist : Errno := 17
/-- Invalid argument. -/
def einval : Errno := 22
/-- Read-only filesystem. -/
def erofs : Errno := 30
/-- Result out of range. -/
def erange : Errno := 34
/-- Function not implemented. -/
def enosys : Errno := 38
/-- Timed out. -/
def etimedout : Errno := 110

end Errno

namespace Client

open Wire (Operation CodecFault)

/-! ## Failures -/

/-- Why an operation fails. -/
inductive Cause
  | transport (fault : TransportFault)
  /-- The backend answered with a status that is no success, and with an error number, or 0. -/
  | backend (status : Nat) (errno : Errno) (message : String)
  | codec (fault : CodecFault)
  | canceled
  | timedOut
  | unimplemented (operation : String)
  | readOnly (op : Operation)
  deriving DecidableEq

namespace Cause

/-- The name of the place that a failure comes from. -/
def label : Cause → String
  | transport _ => "transport"
  | backend .. => "backend"
  | codec _ => "codec"
  | canceled => "canceled"
  | timedOut => "timed out"
  | unimplemented _ => "unimplemented"
  | readOnly _ => "read-only"

/-- The wording of a failure. -/
def message : Cause → String
  | transport fault => fault.message
  | backend _ _ message => message
  | codec fault => fault.message
  | canceled => "operation interrupted"
  | timedOut => "operation deadline exceeded"
  | unimplemented operation => operation ++ " is not implemented"
  | readOnly op => op.name ++ " rejected on a read-only mount"

/-- The error number that the backend gave, or 0. -/
def errno : Cause → Errno
  | backend _ errno _ => errno
  | _ => 0

/-- The status of the reply, if the backend reported the failure. -/
def status? : Cause → Option Nat
  | backend status _ _ => some status
  | _ => none

/-- The error number of failures that bring none of their own. -/
def defaultErrno : Cause → Errno
  | transport _ | backend .. | codec _ => Errno.eio
  | canceled => Errno.eintr
  | timedOut => Errno.etimedout
  | unimplemented _ => Errno.enosys
  | readOnly _ => Errno.erofs

/-- The error number that the kernel sees. -/
def toErrno (c : Cause) : Errno := if 0 < c.errno then c.errno else c.defaultErrno

end Cause

/-- A failed operation: why it failed, and the trace token that was reported with the failure. -/
structure Failure where
  cause : Cause
  trace : Option Trace
  deriving DecidableEq

namespace Failure

/-- The error number that the kernel sees. -/
def toErrno (f : Failure) : Errno := f.cause.toErrno

/-- A failure as it is logged. -/
def text (f : Failure) : String := f.cause.label ++ " error: " ++ f.cause.message

end Failure

end Client

end FsGateway
