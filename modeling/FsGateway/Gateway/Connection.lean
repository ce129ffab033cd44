import FsGateway.Gateway.Worker

/-!
# Connections

A connection serves one kernel session. It reads callbacks and spawns a worker for each that it
forwards; the rest it answers itself. When the session ends, or when it is told to shut down, it
stops reading, drops what is still queued and waits for its workers.

A connection changes by events. What the connection does itself is an event as well, so the order
in which its workers proceed is left open.

* `dispatch`: what becomes of a callback that was read.
* `step`: the connection after an event, if the event can happen.
* `candidates`: what can happen without anyone else.
-/

namespace FsGateway.Gateway

open Kernel (Session Queued Answered Answer Demand Received Ticket)
open Client (Outcome Cause)

/-- What is fixed for a connection. Times are in milliseconds. -/
structure Settings where
  target : Url
  isReadOnly : Bool
  requestTimeout : Option Nat
  drainTimeout : Option Nat
  client : Client.Settings

/-- Where a connection stands. A connection that no longer reads is draining until its workers are
done. -/
inductive Phase
  | ready | serving | draining | closed
  deriving DecidableEq, Repr

/-- What callers are told about a phase. A connection serves until it is closed. -/
def Phase.status : Phase → String
  | ready => "Open"
  | serving | draining => "Serving"
  | closed => "Closed"

/-- How much is left to do before a connection is closed. -/
def Phase.weight : Phase → Nat
  | ready => 4
  | serving => 3
  | draining => 1
  | closed => 0

/-- A connection: where it stands, its session, and what it does. The table `inFlight` leads from
the number of a callback to the worker that an interrupt of this number cancels. -/
structure Connection where
  now : Nat
  phase : Phase
  session : Session
  /-- No ticket below this one is used again. -/
  fresh : Ticket
  isShutDown : Bool
  workers : List Worker
  inFlight : List (UInt64 × Ticket)
  /-- The instant at which the remaining workers are canceled. -/
  drainLimit : Option Nat
  /-- The answers given so far, with their instants. -/
  answers : List (Nat × Answered)
  /-- The requests posted so far, with the tickets of their callbacks. -/
  posts : List (Ticket × Client.Request)

/-- What can happen to a connection. -/
inductive Event
  /-- The kernel sends a callback. -/
  | send (item : Queued)
  /-- The kernel ends the session. -/
  | hangUp
  /-- The connection is told to stop. -/
  | shutDown
  | serve
  /-- The next callback is read. -/
  | receive
  /-- The connection stops reading. -/
  | stop
  /-- A worker starts. If it posts a request, the reply comes after a delay, if ever. -/
  | start (ticket : Ticket) (reply : Option (Nat × Outcome))
  /-- The call of a worker ends. -/
  | finish (ticket : Ticket)
  /-- The time for draining is up. -/
  | expire
  /-- All workers are done. -/
  | drained
  | elapse (duration : Nat)

namespace Connection

/-- A connection that does not serve yet, for a session on which nothing was sent. -/
def ofInstant (now : Nat) : Connection where
  now := now
  phase := .ready
  session := .empty
  fresh := 0
  isShutDown := false
  workers := []
  inFlight := []
  drainLimit := none
  answers := []
  posts := []

/-- Adds answers given now. -/
def record (k : Connection) (answers : List Answered) : Connection :=
  { k with answers := k.answers ++ answers.map fun a => (k.now, a) }

/-! ## Callbacks -/

/-- Cancels the worker that the table names for a number, if there is one. -/
def interrupt (k : Connection) (unique : UInt64) : Connection :=
  match k.inFlight.lookup unique with
  | none => k
  | some ticket =>
    { k with workers := k.workers.map fun w =>
        if w.ticket = ticket then { w with isCanceled := true } else w }

/-- Spawns a worker. -/
def spawn (k : Connection) (w : Worker) : Connection :=
  { k with
    workers := k.workers ++ [w]
    inFlight := (w.header.unique, w.ticket) :: k.inFlight.filter (·.1 ≠ w.header.unique) }

/-- Forwards an operation, unless it would change a read-only mount. -/
def forward (k : Connection) (c : Settings) (item : Queued) (op : Wire.Operation)
    (payload : op.Request) : Connection :=
  if c.isReadOnly && op.isMutating then
    k.record [⟨item.ticket, .error (Cause.readOnly op).toErrno⟩]
  else
    k.spawn ⟨item.ticket, item.callback.header, op, payload, c.requestTimeout.map (k.now + ·),
      false, .spawned⟩

/-- What becomes of a callback. An interrupt cancels its target before it is forwarded itself. -/
def dispatch (k : Connection) (c : Settings) (item : Queued) : Connection :=
  match item.callback.demand with
  | .unsupported opcode =>
    k.record [⟨item.ticket, .error (Cause.unimplemented opcode).toErrno⟩]
  | .operation .interrupt payload =>
    (k.interrupt (Wire.InterruptRequest.intrUnique payload)).forward c item .interrupt payload
  | .operation op payload => k.forward c item op payload

/-! ## Workers -/

/-- Ends the call of a worker with an answer. -/
def retire (k : Connection) (w : Worker) (answer : Answer) : Connection :=
  { k with
    workers := k.workers.filter (·.ticket ≠ w.ticket)
    inFlight := k.inFlight.filter (·.1 ≠ w.header.unique) }.record [⟨w.ticket, answer⟩]

/-- Starts a worker: it posts its request, or its call is over. -/
def start (k : Connection) (c : Settings) (w : Worker) (reply : Option (Nat × Outcome)) :
    Connection :=
  match w.request c.client c.target k.now with
  | .error cause => k.retire w (.error cause.toErrno)
  | .ok request =>
    let stage := Stage.posted (reply.map fun r => (k.now + r.1, r.2))
    { k with
      workers := k.workers.map fun x =>
        if x.ticket = w.ticket then { x with stage := stage } else x
      posts := k.posts ++ [(w.ticket, request)] }

/-- The worker with a ticket. -/
def worker? (k : Connection) (ticket : Ticket) : Option Worker :=
  k.workers.find? (·.ticket = ticket)

/-- Whether the connection has begun to serve its session and is not closed yet. -/
def isServing (k : Connection) : Bool := k.phase = .serving || k.phase = .draining

/-- The number of callbacks that are being forwarded. -/
def inFlightCount (k : Connection) : Nat := k.workers.length

/-! ## The end of a session -/

/-- Stops reading. -/
def stop (k : Connection) (c : Settings) : Connection :=
  let (session, dropped) := k.session.close
  { k with
    phase := .draining
    session := session
    drainLimit := c.drainTimeout.map (k.now + ·) }.record dropped

/-- Cancels all workers. -/
def cancelAll (k : Connection) : Connection :=
  { k with
    workers := k.workers.map fun w => { w with isCanceled := true }
    drainLimit := none }

/-- Whether the connection has a reason to stop reading. -/
def mayStop (k : Connection) : Bool :=
  k.isShutDown ||
    match k.session.receive with
    | .finished => true
    | _ => false

/-! ## Events -/

/-- The connection after an event, or nothing if the event cannot happen. -/
def step (c : Settings) (k : Connection) : Event → Option Connection
  | .send item =>
    if k.session.hasSender && k.fresh ≤ item.ticket then
      let (session, dropped) := k.session.send item
      some ({ k with session := session, fresh := item.ticket + 1 }.record dropped)
    else none
  | .hangUp => some { k with session := k.session.hangUp }
  | .shutDown => some { k with isShutDown := true }
  | .serve => if k.phase = .ready then some { k with phase := .serving } else none
  | .receive =>
    if k.phase = .serving && !k.isShutDown then
      match k.session.receive with
      | .next item session => some ({ k with session := session }.dispatch c item)
      | _ => none
    else none
  | .stop => if k.phase = .serving && k.mayStop then some (k.stop c) else none
  | .start ticket reply =>
    ((k.worker? ticket).filter Worker.isSpawned).map fun w => k.start c w reply
  | .finish ticket => do
    let w ← k.worker? ticket
    let e ← w.ending? k.now
    some (k.retire w (w.answer c.client e))
  | .expire =>
    if k.phase = .draining && k.drainLimit.any (· ≤ k.now) && !k.workers.isEmpty then
      some k.cancelAll
    else none
  | .drained =>
    if k.phase = .draining && k.workers.isEmpty then some { k with phase := .closed } else none
  | .elapse duration => some { k with now := k.now + duration }

/-- The connection after several events, or nothing if one of them cannot happen. -/
def run (c : Settings) (events : List Event) (k : Connection) : Option Connection :=
  events.foldlM (fun k e => k.step c e) k

/-! ## What happens next -/

/-- What can happen without anyone else, for replies that the backend has for the numbers of
callbacks. The session is looked at before the workers, and workers start before others end. -/
def candidates (k : Connection) (replyTo : UInt64 → Option (Nat × Outcome)) : List Event :=
  [.receive, .stop, .expire]
    ++ k.workers.map (fun w => .start w.ticket (replyTo w.header.unique))
    ++ k.workers.map (fun w => .finish w.ticket)
    ++ [.drained]

/-- The instants at which something may happen. -/
def instants (k : Connection) : List Nat :=
  k.workers.flatMap Worker.instants ++ (if k.phase = .draining then k.drainLimit.toList else [])

/-- A bound on how much can happen without anyone else. -/
def weight (k : Connection) : Nat :=
  3 * k.session.queue.length + k.workers.foldr (fun w n => (if w.isSpawned then 2 else 1) + n) 0
    + k.phase.weight + (if k.drainLimit.isSome then 1 else 0)

end Connection

end FsGateway.Gateway
