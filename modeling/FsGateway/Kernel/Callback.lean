import FsGateway.Client.Call

/-!
# Callbacks

The kernel asks for one thing at a time: a callback carries who asked and what is asked, and gets
one answer, a response or an error number.
-/

namespace FsGateway.Kernel

open Client (Credential Identity)
open Wire (Operation FieldValue Record)

/-- The number of a callback, and the process that caused it. -/
structure Header where
  unique : UInt64
  credential : Credential
  deriving DecidableEq, Repr

/-- The identity under which a callback is forwarded. Its number is the trace token. -/
def Header.identity (h : Header) : Identity := ⟨h.credential, h.unique⟩

/-- What the kernel asks for: an operation with its request, or something outside the table of
operations. -/
inductive Demand
  | operation (op : Operation) (payload : op.Request)
  | unsupported (opcode : String)

namespace Demand

/-- The operation, if the table has one. -/
def operation? : Demand → Option Operation
  | operation op _ => some op
  | unsupported _ => none

end Demand

/-- One request of the kernel. -/
structure Callback where
  header : Header
  demand : Demand

/-- What the kernel gets for a callback: the values of a response, or an error number. -/
abbrev Answer := Except Errno (List FieldValue)

/-- The response of an operation as an answer. -/
def Answer.ofResult {op : Operation} (r : Except Errno op.Response) : Answer :=
  r.map Record.flatten

/-- The answer to a callback that nobody answers. -/
def Answer.dropped : Answer := .error Errno.eio

end FsGateway.Kernel
