import FsGateway.Gateway.Connection
import FsGateway.Simulation.Backend
import FsGateway.Simulation.Clock

/-!
# A connection on virtual time

A connection together with a scripted backend. Whatever the connection can do at an instant it does
at that instant.
-/

namespace FsGateway.Simulation

open Gateway (Connection Event Settings)

/-- A connection and its backend. -/
structure Served where
  connection : Connection
  backend : Backend

namespace Served

/-- A connection that does not serve yet, at the instant 0. -/
def start : Served := ⟨.ofInstant 0, .empty⟩

/-- The connection after an event. A request that is posted takes a reply from the backend. -/
def step (c : Settings) (s : Served) (e : Event) : Option Served := do
  let k ← s.connection.step c e
  let backend :=
    if k.posts.length = s.connection.posts.length then s.backend
    else
      match k.posts.getLast? with
      | none => s.backend
      | some (_, request) => (request.identity.map fun i => s.backend.take i.trace).getD s.backend
  some ⟨k, backend⟩

/-- The next thing that happens at this instant. -/
def next (c : Settings) (s : Served) : Option Served :=
  (s.connection.candidates s.backend.peek).findSome? (s.step c)

/-- A connection as it runs in time. -/
def clockwork (c : Settings) : Clockwork Served where
  now s := s.connection.now
  step? := next c
  instants s := s.connection.instants
  elapse d s := (s.step c (.elapse d)).getD s
  weight s := s.connection.weight

/-- Lets an event happen, if it can, and everything that follows at this instant. -/
def happen (c : Settings) (e : Event) (s : Served) : Served :=
  (clockwork c).settle ((s.step c e).getD s)

/-- Lets time pass. -/
def advance (c : Settings) (duration : Nat) (s : Served) : Served :=
  (clockwork c).advance duration s

end Served

end FsGateway.Simulation
