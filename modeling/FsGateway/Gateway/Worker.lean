import FsGateway.Kernel.Session

/-!
# Workers

A worker makes the call of one callback. It is spawned when the callback is read, posts its request
when it starts, and ends with the reply, at its deadline or when it is canceled.

* `request`: what a worker posts when it starts, unless the call is over before.
* `ending?`: what ends a posted call by an instant.
-/

namespace FsGateway.Gateway

open Kernel (Header Ticket)
open Client (Context Outcome End Cause Failure)
open Wire (Operation)

/-- How far a call is. The reply of a posted call arrives at an instant, if ever. -/
inductive Stage
  | spawned
  | posted (reply : Option (Nat × Outcome))

/-- The call of one callback. -/
structure Worker where
  ticket : Ticket
  header : Header
  operation : Operation
  payload : operation.Request
  deadline : Option Nat
  isCanceled : Bool
  stage : Stage

namespace Worker

/-- Whether the worker has not started yet. -/
def isSpawned (w : Worker) : Bool :=
  match w.stage with
  | .spawned => true
  | .posted _ => false

/-- Whether the time of the call is up. -/
def isExpired (w : Worker) (now : Nat) : Bool := w.deadline.any (· ≤ now)

/-- What the worker posts when it starts. -/
def request (w : Worker) (s : Client.Settings) (target : Url) (now : Nat) :
    Except Cause Client.Request :=
  Client.start s ⟨target, w.header.identity⟩ w.operation w.payload w.isCanceled (w.isExpired now)

/-- What ends a posted call by an instant. A cancellation comes before the deadline, and the
deadline before the reply. -/
def ending? (w : Worker) (now : Nat) : Option End :=
  match w.stage with
  | .spawned => none
  | .posted reply =>
    if w.isCanceled then some .canceled
    else if w.isExpired now then some .deadline
    else (reply.filter (·.1 ≤ now)).map fun r => .reply r.2

/-- The answer to the callback of a call with its end. -/
def answer (w : Worker) (s : Client.Settings) (e : End) : Kernel.Answer :=
  .ofResult ((Client.resultOf s w.header.unique w.operation e).mapError Failure.toErrno)

/-- The instants at which something may happen to a posted call. -/
def instants (w : Worker) : List Nat :=
  match w.stage with
  | .spawned => []
  | .posted reply => w.deadline.toList ++ (reply.map (·.1)).toList

end Worker

end FsGateway.Gateway
