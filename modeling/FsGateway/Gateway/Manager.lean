import FsGateway.Gateway.Connection
import FsGateway.Mount.Table

/-!
# The manager

The manager keeps the mounts of the gateway: which mount point is taken, which kernel session and
connection belong to it, and the list of mounts that is saved for a restart. Its operations wait for
the mounter, which attaches kernel sessions to mount points, and for connections to drain; in
between, other operations proceed.

The manager changes by events, and every operation is a task that stands at one of the places where
it waits. So all interleavings of operations are sequences of events.

* `step`, `run`: the manager after an event, or several events, if they can happen.
* `statuses`, `live?`: what callers see of the mounts.
-/

namespace FsGateway.Gateway

open Mount (Path Descriptor Fault FileSystem Table)

/-- What is fixed for all mounts of a manager. -/
structure Setup where
  client : Client.Settings
  requestTimeout : Option Nat
  drainTimeout : Option Nat
  table : Option Table

/-- The settings of the connection for a descriptor. -/
def Setup.settings (s : Setup) (d : Descriptor) (target : Url) : Settings where
  target := target
  isReadOnly := d.isReadOnly
  requestTimeout := s.requestTimeout
  drainTimeout := s.drainTimeout
  client := s.client

/-! ## Mount points -/

/-- The number of a kernel session, in the order in which they were attached. -/
abbrev SessionId := Nat

/-- The number of an operation of the manager. -/
abbrev TaskId := Nat

/-- What a mount point is taken for. -/
inductive Slot
  /-- An operation is about to mount it. -/
  | pending
  /-- A kernel session is attached. -/
  | active (session : SessionId)
  deriving DecidableEq, Repr

/-- Mount points that are taken. Equal paths name one mount point. -/
abbrev Slots := List (Path × Slot)

namespace Slots

/-- What a mount point is taken for. -/
def find? (s : Slots) (p : Path) : Option Slot := (List.find? (fun e => e.1.same p) s).map (·.2)

/-- The slots without a mount point. -/
def erase (s : Slots) (p : Path) : Slots := s.filter fun e => !e.1.same p

/-- The slots with a mount point taken. -/
def insert (s : Slots) (p : Path) (slot : Slot) : Slots := s.erase p ++ [(p, slot)]

/-- The sessions of active slots. -/
def sessions (s : Slots) : List SessionId :=
  s.filterMap fun e =>
    match e.2 with
    | .active session => some session
    | .pending => none

/-- The slots that are not active. -/
def pending (s : Slots) : Slots := s.filter fun e => e.2 = .pending

end Slots

/-- A kernel session that was attached, and its connection. -/
structure Live where
  descriptor : Descriptor
  settings : Settings
  connection : Connection

/-! ## Operations -/

/-- A call of the mounter. -/
inductive MounterCall
  | mount (descriptor : Descriptor)
  | unmount (point : Path)
  deriving DecidableEq

/-- Why a descriptor is mounted: by itself, or in the course of restoring `count` mounts, of which
`rest` are still to come. -/
inductive Purpose
  | single
  | restoring (rest : List Descriptor) (count : Nat)

/-- What follows when a session has been stopped: the list of mounts is saved, or the next session
is stopped. -/
inductive Sequel
  | save
  | stopMore (rest : List SessionId)

/-- Where an operation waits. -/
inductive Task
  /-- For the mounter to detach what an earlier process has left at the mount point. -/
  | clearing (descriptor : Descriptor) (rest : List Descriptor) (count : Nat)
  /-- For the mounter to attach a session. -/
  | mounting (descriptor : Descriptor) (target : Url) (purpose : Purpose)
  /-- For its turn to activate the session. -/
  | activating (descriptor : Descriptor) (session : SessionId) (purpose : Purpose)
  /-- For the mounter to detach a session. -/
  | detaching (session : SessionId) (sequel : Sequel)
  /-- For the connection of a session to close. -/
  | joining (session : SessionId) (detached : Except Fault Unit) (sequel : Sequel)
  /-- For its turn to save the list of mounts. -/
  | saving (detached : Except Fault Unit)
  /-- For its turn to stop one of the remaining sessions. -/
  | stopping (rest : List SessionId)

/-- What an operation has done. -/
inductive Done
  | finished
  | restored (count : Nat)
  deriving DecidableEq, Repr

/-- The manager, with the state of the files. -/
structure Manager (σ : Type) where
  now : Nat
  files : σ
  /-- The list of mounts, in the order in which it is saved. -/
  mounts : List Descriptor
  slots : Slots
  /-- All sessions so far. -/
  sessions : List Live
  tasks : List (TaskId × Task)
  /-- No task has this number or a higher one. -/
  fresh : TaskId
  /-- The calls of the mounter so far, with the tasks that made them. -/
  calls : List (TaskId × MounterCall)
  /-- The results of the operations that are over. -/
  results : List (TaskId × Except Fault Done)

/-- What can happen to a manager. -/
inductive ManagerEvent
  /-- An operation begins. -/
  | mount (task : TaskId) (descriptor : Descriptor)
  | unmount (task : TaskId) (point : Path)
  | restore (task : TaskId)
  | shutDownAll (task : TaskId)
  /-- A call of the mounter returns. -/
  | returned (task : TaskId) (result : Except Fault Unit)
  /-- An operation goes on. -/
  | activate (task : TaskId)
  | join (task : TaskId)
  | save (task : TaskId)
  | stop (task : TaskId) (session : SessionId)
  /-- Something happens to the connection of a session. -/
  | session (session : SessionId) (event : Event)
  | elapse (duration : Nat)

namespace Manager

variable {σ : Type}

/-- A manager without mounts. -/
def empty (files : σ) : Manager σ where
  now := 0
  files := files
  mounts := []
  slots := []
  sessions := []
  tasks := []
  fresh := 0
  calls := []
  results := []

/-! ## What callers see -/

/-- The session that is attached to a mount point. -/
def live? (m : Manager σ) (p : Path) : Option Live :=
  match m.slots.find? p with
  | some (.active session) => m.sessions[session]?
  | _ => none

/-- The list of mounts, and whether each is being served. -/
def statuses (m : Manager σ) : List (Descriptor × Bool) :=
  m.mounts.map fun d => (d, (m.live? d.point).any fun l => l.connection.isServing)

/-! ## Tasks -/

/-- The place where an operation waits. -/
def task? (m : Manager σ) (task : TaskId) : Option Task := m.tasks.lookup task

/-- The manager with an operation at a place. -/
def await (m : Manager σ) (task : TaskId) (t : Task) : Manager σ :=
  { m with tasks := m.tasks.filter (·.1 ≠ task) ++ [(task, t)] }

/-- The manager with a call of the mounter. -/
def callMounter (m : Manager σ) (task : TaskId) (c : MounterCall) : Manager σ :=
  { m with calls := m.calls ++ [(task, c)] }

/-- The manager with an operation that is over. -/
def complete (m : Manager σ) (task : TaskId) (r : Except Fault Done) : Manager σ :=
  { m with
    tasks := m.tasks.filter (·.1 ≠ task)
    results := m.results ++ [(task, r)] }

/-- Saves the list of mounts, if there is a table. -/
def saveMounts (fs : FileSystem σ) (s : Setup) (m : Manager σ) : Except Fault Unit × Manager σ :=
  match s.table with
  | none => (.ok (), m)
  | some table =>
    let (r, files) := table.save fs m.mounts m.files
    (r.mapError Fault.table, { m with files := files })

/-! ## Mounting -/

/-- Begins to mount a descriptor. Its mount point must be free, and is taken from now on. -/
def beginMount (m : Manager σ) (task : TaskId) (d : Descriptor) (purpose : Purpose) : Manager σ :=
  match d.validate with
  | .error fault => m.complete task (.error fault)
  | .ok target =>
    if (m.slots.find? d.point).isSome then m.complete task (.error (.alreadyMounted d.point))
    else
      ({ m with slots := m.slots.insert d.point .pending }.callMounter task (.mount d)).await task
        (.mounting d target purpose)

/-- Goes on with the mounts that are still to be restored. What an earlier process may have left at
a mount point is detached first. -/
def continueRestore (m : Manager σ) (task : TaskId) (rest : List Descriptor) (count : Nat) :
    Manager σ :=
  match rest with
  | [] => m.complete task (.ok (.restored count))
  | d :: rest => (m.callMounter task (.unmount d.point)).await task (.clearing d rest count)

/-- A session was attached. Its connection is about to serve it. -/
def attach (s : Setup) (m : Manager σ) (task : TaskId) (d : Descriptor) (target : Url)
    (purpose : Purpose) : Manager σ :=
  let live : Live := ⟨d, s.settings d target, .ofInstant m.now⟩
  { m with sessions := m.sessions ++ [live] }.await task (.activating d m.sessions.length purpose)

/-- Lists a session that was attached. -/
def enlist (m : Manager σ) (d : Descriptor) (session : SessionId) : Manager σ :=
  { m with
    slots := m.slots.insert d.point (.active session)
    mounts := m.mounts ++ [d] }

/-- Activates a session that was attached. The list is not saved when mounts are restored. -/
def activate (fs : FileSystem σ) (s : Setup) (m : Manager σ) (task : TaskId) (d : Descriptor)
    (session : SessionId) (purpose : Purpose) : Manager σ :=
  match purpose with
  | .single =>
    let (r, m) := (m.enlist d session).saveMounts fs s
    m.complete task (r.map fun _ => .finished)
  | .restoring rest count => (m.enlist d session).continueRestore task rest count

/-! ## Stopping -/

/-- Begins to stop a session. It is detached first. -/
def beginStop (m : Manager σ) (task : TaskId) (session : SessionId) (sequel : Sequel) :
    Option (Manager σ) :=
  m.sessions[session]?.map fun l =>
    (m.callMounter task (.unmount l.descriptor.point)).await task (.detaching session sequel)

/-- Lets something happen to the connection of a session. -/
def stepSession (m : Manager σ) (session : SessionId) (e : Event) : Option (Manager σ) := do
  let l ← m.sessions[session]?
  let k ← l.connection.step l.settings e
  some { m with sessions := m.sessions.set session { l with connection := k } }

/-- Begins to unmount a mount point. It is free from now on, and is no longer listed. -/
def beginUnmount (m : Manager σ) (task : TaskId) (p : Path) : Option (Manager σ) :=
  match m.slots.find? p with
  | some (.active session) =>
    { m with
      slots := m.slots.erase p
      mounts := m.mounts.filter fun d => !d.point.same p }.beginStop task session .save
  | _ => some (m.complete task (.error (.notMounted p)))

/-- Goes on with the sessions that are still to be stopped. -/
def continueStop (m : Manager σ) (task : TaskId) (rest : List SessionId) : Manager σ :=
  if rest.isEmpty then m.complete task (.ok .finished) else m.await task (.stopping rest)

/-- Goes on when a session has been stopped. -/
def follow (m : Manager σ) (task : TaskId) (detached : Except Fault Unit) :
    Sequel → Manager σ
  | .save => m.await task (.saving detached)
  | .stopMore rest => m.continueStop task rest

/-! ## Events -/

/-- Begins an operation under a new number. -/
def begin (m : Manager σ) (task : TaskId) : Option (Manager σ) :=
  if m.fresh ≤ task then some { m with fresh := task + 1 } else none

/-- Goes on when a call of the mounter returns. -/
def goOn (s : Setup) (m : Manager σ) (task : TaskId) (result : Except Fault Unit) :
    Task → Option (Manager σ)
  | .clearing d rest count => some (m.beginMount task d (.restoring rest count))
  | .mounting d target purpose =>
    match result with
    | .ok () => some (m.attach s task d target purpose)
    | .error fault =>
      some ({ m with slots := m.slots.erase d.point }.complete task (.error fault))
  | .detaching session sequel =>
    (m.stepSession session .shutDown).map fun m => m.await task (.joining session result sequel)
  | _ => none

/-- Whether an event of a connection comes from the kernel, the backend or the connection itself.
Only the manager shuts a connection down. -/
def isFree : Event → Bool
  | .shutDown | .elapse _ => false
  | _ => true

/-- The manager after an event, or nothing if the event cannot happen. -/
def step (fs : FileSystem σ) (s : Setup) (m : Manager σ) : ManagerEvent → Option (Manager σ)
  | .mount task d => do
    let m ← m.begin task
    some (m.beginMount task d .single)
  | .unmount task p => do
    let m ← m.begin task
    m.beginUnmount task p
  | .restore task => do
    let m ← m.begin task
    match s.table with
    | none => some (m.complete task (.ok (.restored 0)))
    | some table =>
      match table.load fs m.files with
      | .error fault => some (m.complete task (.error (.table fault)))
      | .ok saved => some (m.continueRestore task saved saved.length)
  | .shutDownAll task => do
    let m ← m.begin task
    let sessions := m.slots.sessions
    some ({ m with slots := m.slots.pending }.continueStop task sessions)
  | .returned task result => do
    let t ← m.task? task
    m.goOn s task result t
  | .activate task =>
    match m.task? task with
    | some (.activating d session purpose) => some (m.activate fs s task d session purpose)
    | _ => none
  | .join task =>
    match m.task? task with
    | some (.joining session detached sequel) =>
      if m.sessions[session]?.any (·.connection.phase = .closed) then
        some (m.follow task detached sequel)
      else none
    | _ => none
  | .save task =>
    match m.task? task with
    | some (.saving detached) =>
      let (r, m) := m.saveMounts fs s
      some (m.complete task ((r.bind fun _ => detached).map fun _ => .finished))
    | _ => none
  | .stop task session =>
    match m.task? task with
    | some (.stopping rest) =>
      if session ∈ rest then m.beginStop task session (.stopMore (rest.erase session)) else none
    | _ => none
  | .session session e => if isFree e then m.stepSession session e else none
  | .elapse duration =>
    some { m with
      now := m.now + duration
      sessions := m.sessions.map fun l =>
        { l with connection := { l.connection with now := l.connection.now + duration } } }

/-- The manager after several events, or nothing if one of them cannot happen. -/
def run (fs : FileSystem σ) (s : Setup) (events : List ManagerEvent) (m : Manager σ) :
    Option (Manager σ) :=
  events.foldlM (fun m e => m.step fs s e) m

end Manager

end FsGateway.Gateway
