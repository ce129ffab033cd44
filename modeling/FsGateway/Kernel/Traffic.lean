import FsGateway.Kernel.Bridge
import FsGateway.Kernel.Session

/-!
# File calls on a session

The bridge of a volume turns file calls into callbacks on a session, and the answers to these into
replies. What a file call waits for its reply with, its handle, goes with the callback. Whoever has it
in the end answers it or lets go of it, which answers it as well.

* `Handle`: a way to reply, which can be used once.
* `Traffic.call`: a file call is made.
* `Traffic.step`: the volume and its session after an event, if the event can happen.
-/

namespace FsGateway.Kernel

/-! ## Handles -/

/-- What a file call waits for its reply with. A handle that has been used does not respond. -/
structure Handle where
  /-- The number of the file call. -/
  call : Nat
  respond : Option (Answer → Option FileReply)

namespace Handle

/-- Uses a handle, unless it has been used. -/
def use (h : Handle) (answer : Answer) : List FileReply × Handle :=
  match h.respond with
  | some respond => ((respond answer).toList, { h with respond := none })
  | none => ([], h)

/-- Lets go of a handle. -/
def drop (h : Handle) : List FileReply := (h.use .dropped).1

/-- Answers a handle and lets go of it. -/
def send (h : Handle) (answer : Answer) : List FileReply :=
  let (replies, h) := h.use answer
  replies ++ h.drop

end Handle

/-- What becomes of a callback. -/
inductive Fate
  | answered (answer : Answer)
  /-- Whoever received it let go of it, or the session was closed before anyone did. -/
  | dropped
  /-- The session was closed before it was submitted. -/
  | refused

namespace Fate

/-- The answer that a callback gets. -/
def answer : Fate → Answer
  | answered a => a
  | dropped | refused => .dropped

/-- The replies of a handle whose callback has a fate. -/
def replies (h : Handle) : Fate → List FileReply
  | answered a => h.send a
  | dropped | refused => h.drop

end Fate

/-! ## File calls -/

namespace Plan

/-- The reply that nobody is asked for. -/
def atOnce : Plan → Option FileReply
  | refuse errno => some (.error errno)
  | dismiss => some .done
  | ask .. | askUnsupported _ | tell _ => none

/-- The reply that an answer makes. -/
def later (p : Plan) (answer : Answer) : Option FileReply :=
  if p.atOnce.isSome then none else p.reply answer

end Plan

/-- A file call that was made, and the volume that it was made to. -/
structure Made where
  volume : Volume
  clock : Clock
  header : Header
  call : FileCall

/-- What becomes of a file call that was made. -/
def Made.plan (m : Made) : Plan := m.volume.plan m.clock m.call

/-- The entries of a log for one file call. -/
def entriesOf {α : Type} (call : Nat) (log : List (Nat × α)) : List α :=
  log.filterMap fun e => if e.1 = call then some e.2 else none

/-! ## Traffic -/

/-- A volume and its session, and what has passed between them. File calls are known by their numbers
and callbacks by their tickets, both in the order in which they were made. -/
structure Traffic where
  volume : Volume
  session : Session
  /-- The callbacks that someone has received and still has. -/
  held : List Queued
  /-- The handles that wait for answers, with the tickets of their callbacks. -/
  waiting : List (Ticket × Handle)
  calls : List Made
  /-- The callbacks submitted so far. -/
  submitted : List (Nat × Callback)
  /-- The replies given so far. -/
  replies : List (Nat × FileReply)

/-- What can happen to a volume and its session. -/
inductive TrafficEvent
  /-- The kernel makes a file call. -/
  | call (clock : Clock) (header : Header) (call : FileCall)
  /-- The next callback is received. -/
  | receive
  | answer (ticket : Ticket) (answer : Answer)
  /-- Whoever received a callback lets go of it. -/
  | release (ticket : Ticket)
  /-- Nobody receives callbacks any more. -/
  | close

namespace Traffic

/-- A volume to which no call was made. -/
def start : Traffic := ⟨.start, .empty, [], [], [], [], []⟩

/-- A callback meets its fate, with the handle that waits for it. -/
def settle (t : Traffic) (ticket : Ticket) (fate : Fate) : Traffic :=
  match t.waiting.find? (·.1 = ticket) with
  | some (_, h) =>
    { t with
      waiting := t.waiting.filter (·.1 ≠ ticket)
      replies := t.replies ++ (fate.replies h).map (h.call, ·) }
  | none => t

/-- Several callbacks meet the same fate. -/
def settleAll (t : Traffic) (answers : List Answered) (fate : Fate) : Traffic :=
  answers.foldl (fun t a => t.settle a.ticket fate) t

/-- Submits a callback for a file call. -/
def submit (t : Traffic) (call : Nat) (p : Plan) (c : Callback) : Traffic :=
  let ticket := t.submitted.length
  let (session, refused) := t.session.send ⟨ticket, c⟩
  let sent : Traffic := { t with
    session := session
    waiting := t.waiting ++ [(ticket, ⟨call, some p.later⟩)]
    submitted := t.submitted ++ [(call, c)] }
  sent.settleAll refused .refused

/-- Makes a file call. -/
def call (t : Traffic) (m : Made) : Traffic :=
  let n := t.calls.length
  let begun : Traffic := { t with
    volume := t.volume.after m.call
    calls := t.calls ++ [m]
    replies := t.replies ++ m.plan.atOnce.toList.map (n, ·) }
  (m.plan.callbacks m.header).foldl (fun t c => t.submit n m.plan c) begun

/-- A callback that someone has meets its fate. -/
def settleHeld (t : Traffic) (ticket : Ticket) (fate : Fate) : Option Traffic :=
  let without : Traffic := { t with held := t.held.filter (·.ticket ≠ ticket) }
  if t.held.any (·.ticket = ticket) then some (without.settle ticket fate) else none

/-- Nobody receives callbacks any more. Those in the queue are dropped. -/
def close (t : Traffic) : Traffic :=
  let (session, dropped) := t.session.close
  let closed : Traffic := { t with
    volume := { t.volume with bridge.isOpen := false }
    session := session }
  closed.settleAll dropped .dropped

/-- The volume and its session after an event, or nothing if the event cannot happen. -/
def step (t : Traffic) : TrafficEvent → Option Traffic
  | .call clock header c => some (t.call ⟨t.volume, clock, header, c⟩)
  | .receive =>
    match t.session.receive with
    | .next item session => some { t with session := session, held := t.held ++ [item] }
    | _ => none
  | .answer ticket answer => t.settleHeld ticket (.answered answer)
  | .release ticket => t.settleHeld ticket .dropped
  | .close => some t.close

/-- The volume and its session after several events, or nothing if one of them cannot happen. -/
def run (events : List TrafficEvent) (t : Traffic) : Option Traffic :=
  events.foldlM (fun t e => t.step e) t

/-- The replies to a file call. -/
def repliesTo (t : Traffic) (call : Nat) : List FileReply := entriesOf call t.replies

/-- The callbacks that were submitted for a file call. -/
def submittedFor (t : Traffic) (call : Nat) : List Callback := entriesOf call t.submitted

/-- The handles of a file call that wait. -/
def waitingFor (t : Traffic) (call : Nat) : List (Ticket × Handle) :=
  t.waiting.filter (·.2.call = call)

end Traffic

end FsGateway.Kernel
