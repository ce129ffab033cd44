import FsGateway.Kernel.Callback

/-!
# Kernel sessions

A session passes callbacks from the kernel, the sender, to whoever serves them, the receiver. The
callbacks wait in a queue in the order in which they were sent. Each is known by a ticket.

* `send`: a callback is queued, or dropped when nobody receives any more.
* `receive`: the next callback, as long as one is queued, even if the sender is gone.
* `close`: the receiver goes, and the callbacks in the queue are dropped.
-/

namespace FsGateway.Kernel

/-- The name of a callback that was sent. -/
abbrev Ticket := Nat

/-- A callback with its ticket. -/
structure Queued where
  ticket : Ticket
  callback : Callback

/-- An answer with the ticket of its callback. -/
structure Answered where
  ticket : Ticket
  answer : Answer

/-- The answer to a callback that is dropped. -/
def Queued.dropped (item : Queued) : Answered := ⟨item.ticket, .dropped⟩

/-- A session. -/
structure Session where
  queue : List Queued
  hasSender : Bool
  isOpen : Bool

/-- What a receiver finds. -/
inductive Received
  /-- The next callback, and the session without it. -/
  | next (item : Queued) (session : Session)
  /-- Nothing yet. -/
  | pending
  /-- Nothing any more. -/
  | finished

namespace Session

/-- A session on which nothing was sent. -/
def empty : Session := ⟨[], true, true⟩

/-- Sends a callback. It gets its answer at once if nobody receives any more. -/
def send (s : Session) (item : Queued) : Session × List Answered :=
  if s.isOpen then ({ s with queue := s.queue ++ [item] }, []) else (s, [item.dropped])

/-- The sender goes. -/
def hangUp (s : Session) : Session := { s with hasSender := false }

/-- Takes the next callback. -/
def receive (s : Session) : Received :=
  match s.queue with
  | item :: queue => .next item { s with queue := queue }
  | [] => if s.hasSender then .pending else .finished

/-- The receiver goes, and the callbacks in the queue get their answers. -/
def close (s : Session) : Session × List Answered :=
  ({ s with queue := [], isOpen := false }, s.queue.map Queued.dropped)

end Session

end FsGateway.Kernel
