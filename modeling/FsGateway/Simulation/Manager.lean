import FsGateway.Gateway.Manager
import FsGateway.Mount.Files
import FsGateway.Simulation.Backend
import FsGateway.Simulation.Clock

/-!
# A manager on virtual time

A manager together with a scripted backend, files in memory and a scripted mounter. The mounter
keeps the sender of a session under its mount point. Detaching a mount point ends the session whose
sender is kept there, whichever it is.
-/

namespace FsGateway.Simulation

open Gateway (Manager ManagerEvent MounterCall Setup SessionId TaskId Event Connection Task)
open Mount (Path Files)

/-! ## The mounter -/

/-- How a call of the mounter ends: with a reason to fail, or after some time. -/
inductive Ending
  | fail (reason : String)
  | succeed (delay : Nat)

/-- The instant to which a call takes that begins now. -/
def Ending.instant (now : Nat) : Ending → Nat
  | fail _ => now
  | succeed delay => now + delay

/-- The endings of calls to come, in order. Each belongs to a path as it is spelled. -/
abbrev Script := List (String × Ending)

namespace Script

/-- The ending of the next call on a path. -/
def peek (s : Script) (p : Path) : Ending := (s.lookup p.text).getD (.succeed 0)

/-- The script after a call on a path. -/
def take (s : Script) (p : Path) : Script := s.eraseP (·.1 = p.text)

end Script

/-- A call of the mounter that has not returned. -/
structure Outstanding where
  task : TaskId
  call : MounterCall
  instant : Nat
  ending : Ending

/-! ## The manager and its surroundings -/

/-- A manager with everything around it. -/
structure Managed where
  manager : Manager Files
  backend : Backend
  mounts : Script
  unmounts : Script
  senders : List (Path × SessionId)
  outstanding : List Outstanding

namespace Managed

/-- A manager without mounts. -/
def start (files : Files) (mounts unmounts : Script) : Managed :=
  ⟨.empty files, .empty, mounts, unmounts, [], []⟩

/-- Makes a call of the mounter. -/
def call (s : Managed) (task : TaskId) (c : MounterCall) : Managed :=
  let now := s.manager.now
  match c with
  | .mount d =>
    let ending := s.mounts.peek d.point
    { s with
      mounts := s.mounts.take d.point
      outstanding := s.outstanding ++ [⟨task, c, ending.instant now, ending⟩] }
  | .unmount p =>
    let ending := s.unmounts.peek p
    { s with
      unmounts := s.unmounts.take p
      outstanding := s.outstanding ++ [⟨task, c, ending.instant now, ending⟩] }

/-- All requests that were posted so far on a connection. -/
def posted (s : Managed) (session : SessionId) : Nat :=
  (s.manager.sessions[session]?.map fun l => l.connection.posts.length).getD 0

/-- The manager after an event. Its calls reach the mounter, and a request that is posted takes a
reply from the backend. -/
def step (c : Setup) (s : Managed) (e : ManagerEvent) : Option Managed := do
  let m ← s.manager.step Files.system c e
  let calls := m.calls.drop s.manager.calls.length
  let s' := calls.foldl (fun s x => s.call x.1 x.2) { s with manager := m }
  match e with
  | .session session (.start ticket _) =>
    if s'.posted session = s.posted session then some s'
    else
      let unique := do
        let l ← s.manager.sessions[session]?
        let w ← l.connection.worker? ticket
        some w.header.unique
      some { s' with backend := (unique.map s'.backend.take).getD s'.backend }
  | _ => some s'

/-- The manager after an event, or as it was if the event cannot happen. -/
def attempt (c : Setup) (s : Managed) (e : ManagerEvent) : Managed := (s.step c e).getD s

/-- The session whose sender is kept under a path. -/
def sender? (s : Managed) (p : Path) : Option SessionId :=
  (s.senders.find? fun e => e.1.same p).map (·.2)

/-- Drops the sender that is kept under a path, which ends its session. -/
def dropSender (c : Setup) (s : Managed) (p : Path) : Managed :=
  match s.sender? p with
  | none => s
  | some session =>
    ({ s with senders := s.senders.filter fun e => !e.1.same p }).attempt c (.session session .hangUp)

/-- Lets a call of the mounter return. -/
def returns (c : Setup) (s : Managed) (o : Outstanding) : Managed :=
  let s := { s with outstanding := s.outstanding.filter (·.task ≠ o.task) }
  match o.call, o.ending with
  | .mount d, .fail reason => s.attempt c (.returned o.task (.error (.mount d.point reason)))
  | .unmount p, .fail reason => s.attempt c (.returned o.task (.error (.unmount p reason)))
  | .mount d, .succeed _ =>
    let session := s.manager.sessions.length
    let s := s.dropSender c d.point
    { s with senders := s.senders ++ [(d.point, session)] }.attempt c (.returned o.task (.ok ()))
  | .unmount p, .succeed _ =>
    if (s.sender? p).isSome then (s.dropSender c p).attempt c (.returned o.task (.ok ()))
    else s.attempt c (.returned o.task (.error (.unmount p "not mounted")))

/-- What an operation can do next by itself. -/
def taskEvents : TaskId × Task → List ManagerEvent
  | (task, .activating ..) => [.activate task]
  | (task, .joining ..) => [.join task]
  | (task, .saving _) => [.save task]
  | (task, .stopping rest) => rest.map (.stop task)
  | _ => []

/-- What can happen to the manager without anyone else. -/
def candidates (s : Managed) : List ManagerEvent :=
  (s.manager.sessions.zipIdx.flatMap fun (l, session) =>
      (.serve :: l.connection.candidates s.backend.peek).map (.session session))
    ++ s.manager.tasks.flatMap taskEvents

/-- The next thing that happens at this instant. -/
def next (c : Setup) (s : Managed) : Option Managed :=
  (s.candidates.findSome? (s.step c)).or
    ((s.outstanding.find? (·.instant ≤ s.manager.now)).map (s.returns c))

/-- A bound on what an operation can do. -/
def taskWeight : TaskId × Task → Nat
  | (_, .clearing _ rest _) => 20 * rest.length + 20
  | (_, .mounting _ _ (.restoring rest _)) => 20 * rest.length + 16
  | (_, .mounting _ _ .single) => 16
  | (_, .activating _ _ (.restoring rest _)) => 20 * rest.length + 6
  | (_, .activating _ _ .single) => 6
  | (_, .detaching _ (.stopMore rest)) => 10 * rest.length + 8
  | (_, .joining _ _ (.stopMore rest)) => 10 * rest.length + 6
  | (_, .detaching ..) => 8
  | (_, .joining ..) => 6
  | (_, .saving _) => 2
  | (_, .stopping rest) => 10 * rest.length

/-- A manager as it runs in time. -/
def clockwork (c : Setup) : Clockwork Managed where
  now s := s.manager.now
  step? := next c
  instants s := s.outstanding.map (·.instant)
    ++ s.manager.sessions.flatMap fun l => l.connection.instants
  elapse d s := s.attempt c (.elapse d)
  weight s := s.manager.sessions.foldr (fun l n => l.connection.weight + n) 0
    + s.manager.tasks.foldr (fun t n => taskWeight t + n) 0

/-- Lets an event happen, if it can, and everything that follows at this instant. -/
def happen (c : Setup) (e : ManagerEvent) (s : Managed) : Managed :=
  (clockwork c).settle (s.attempt c e)

/-- The kernel ends the session whose sender is kept under a path. -/
def hangUp (c : Setup) (p : Path) (s : Managed) : Managed :=
  (clockwork c).settle (s.dropSender c p)

/-- Lets time pass. -/
def advance (c : Setup) (duration : Nat) (s : Managed) : Managed :=
  (clockwork c).advance duration s

end Managed

end FsGateway.Simulation
