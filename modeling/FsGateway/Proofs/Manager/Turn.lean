import FsGateway.Gateway.Manager
import FsGateway.Proofs.Keyed

/-!
# What an event does to a manager

An operation goes from one place where it waits to the next, or to its end. Such a turn changes what
the manager keeps: slots, mounts, sessions, files and the calls of the mounter. This module says once
what the turns are; everything about whole runs rests on it.

* `Turn`: what an operation does on its way from one place to the next.
* `Effect`: what an event can do. `step_effect`: a step does nothing else.
-/

namespace FsGateway.Gateway

open Mount (Path Descriptor Fault FileSystem Table)

/-! ## Places -/

/-- Where an operation goes: to another place, or to its end. -/
inductive Next
  | wait (t : Task)
  | ended (r : Except Fault Done)

/-- The place where an operation waits, unless it is over. -/
def Next.task? : Next → Option Task
  | .wait t => some t
  | .ended _ => none

/-- Where an operation goes that has sessions left to stop. -/
def stopNext (rest : List SessionId) : Next :=
  if rest.isEmpty then .ended (.ok .finished) else .wait (.stopping rest)

/-- Where an operation goes that has stopped a session. -/
def Sequel.next (detached : Except Fault Unit) : Sequel → Next
  | .save => .wait (.saving detached)
  | .stopMore rest => stopNext rest

/-- An operation is about to mount a descriptor: it has just begun, or what an earlier process had
left at the mount point was detached. -/
inductive Starts (task : TaskId) : ManagerEvent → Option Task → Descriptor → Purpose → Prop
  | mount (d : Descriptor) : Starts task (.mount task d) none d .single
  | restore (result : Except Fault Unit) (d : Descriptor) (rest : List Descriptor) (count : Nat) :
      Starts task (.returned task result) (some (.clearing d rest count)) d (.restoring rest count)

namespace Manager

variable {σ : Type} {fs : FileSystem σ} {s : Setup} {m m' : Manager σ} {task : TaskId}
  {e : ManagerEvent}

/-- The manager with an operation gone where it goes. -/
def put (m : Manager σ) (task : TaskId) : Next → Manager σ
  | .wait t => m.await task t
  | .ended r => m.complete task r

/-- The operations besides one. -/
def others (m : Manager σ) (task : TaskId) : List (TaskId × Task) :=
  m.tasks.filter (·.1 ≠ task)

theorem mem_of_task? {t : Task} (h : m.task? task = some t) : (task, t) ∈ m.tasks := by
  obtain ⟨before, after, hsplit, -⟩ := List.lookup_eq_some_iff.mp h
  rw [hsplit]
  exact List.mem_append_right _ List.mem_cons_self

/-- An operation waits where it has gone. -/
@[simp] theorem task?_await (m : Manager σ) (task : TaskId) (t : Task) :
    (m.await task t).task? task = some t := by
  have hgone : (m.tasks.filter fun e => e.1 ≠ task).lookup task = none := by
    rw [Keyed.lookup_filter (fun k => k ≠ task)]
    simp
  simp only [task?, await, List.lookup_append, hgone, Option.none_or]
  simp

theorem put_tasks (next : Next) :
    (m.put task next).tasks = m.others task ++ next.task?.toList.map (task, ·) := by
  cases next with
  | wait t => rfl
  | ended r => exact (List.append_nil _).symm

@[simp] theorem put_slots (next : Next) : (m.put task next).slots = m.slots := by
  cases next <;> rfl

@[simp] theorem put_sessions (next : Next) : (m.put task next).sessions = m.sessions := by
  cases next <;> rfl

@[simp] theorem put_mounts (next : Next) : (m.put task next).mounts = m.mounts := by
  cases next <;> rfl

@[simp] theorem put_files (next : Next) : (m.put task next).files = m.files := by
  cases next <;> rfl

@[simp] theorem put_fresh (next : Next) : (m.put task next).fresh = m.fresh := by
  cases next <;> rfl

@[simp] theorem put_calls (next : Next) : (m.put task next).calls = m.calls := by
  cases next <;> rfl

theorem continueStop_eq (rest : List SessionId) :
    m.continueStop task rest = m.put task (stopNext rest) := by
  unfold continueStop stopNext
  split <;> rfl

theorem follow_eq (detached : Except Fault Unit) (sequel : Sequel) :
    m.follow task detached sequel = m.put task (sequel.next detached) := by
  cases sequel with
  | save => rfl
  | stopMore rest => exact continueStop_eq rest

/-! ## Saving -/

@[simp] theorem saveMounts_tasks : (m.saveMounts fs s).2.tasks = m.tasks := by
  unfold saveMounts
  split <;> rfl

@[simp] theorem saveMounts_slots : (m.saveMounts fs s).2.slots = m.slots := by
  unfold saveMounts
  split <;> rfl

@[simp] theorem saveMounts_sessions : (m.saveMounts fs s).2.sessions = m.sessions := by
  unfold saveMounts
  split <;> rfl

@[simp] theorem saveMounts_mounts : (m.saveMounts fs s).2.mounts = m.mounts := by
  unfold saveMounts
  split <;> rfl

@[simp] theorem saveMounts_fresh : (m.saveMounts fs s).2.fresh = m.fresh := by
  unfold saveMounts
  split <;> rfl

@[simp] theorem saveMounts_calls : (m.saveMounts fs s).2.calls = m.calls := by
  unfold saveMounts
  split <;> rfl

@[simp] theorem saveMounts_results : (m.saveMounts fs s).2.results = m.results := by
  unfold saveMounts
  split <;> rfl

theorem saveMounts_of_table {t : Table} (h : s.table = some t) :
    m.saveMounts fs s = ((t.save fs m.mounts m.files).1.mapError Fault.table,
      { m with files := (t.save fs m.mounts m.files).2 }) := by
  simp [saveMounts, h]

/-- A list of mounts that is not saved is one that the table does not save. -/
theorem saveMounts_eq_error {fault : Fault} (h : (m.saveMounts fs s).1 = .error fault) :
    ∃ t f, s.table = some t ∧ fault = .table f ∧
      t.save fs m.mounts m.files = (.error f, (m.saveMounts fs s).2.files) := by
  cases htable : s.table with
  | none =>
    simp only [saveMounts, htable] at h
    cases h
  | some t =>
    rw [saveMounts_of_table htable] at h ⊢
    cases hsave : (t.save fs m.mounts m.files).1 with
    | ok u =>
      rw [hsave] at h
      cases h
    | error f =>
      rw [hsave] at h
      cases h
      exact ⟨t, f, rfl, rfl, Prod.ext hsave rfl⟩

/-! ## Turns -/

/-- Why a descriptor cannot be mounted now. -/
inductive Bars (m : Manager σ) (d : Descriptor) : Fault → Prop
  | invalid {fault : Fault} : d.validate = .error fault → Bars m d fault
  | taken {target : Url} : d.validate = .ok target → (m.slots.find? d.point).isSome = true →
      Bars m d (.alreadyMounted d.point)

/-- How an operation goes on that has mounts left to restore. -/
inductive Restores (m : Manager σ) (task : TaskId) :
    List Descriptor → Nat → Manager σ → Next → Prop
  | done (count : Nat) : Restores m task [] count m (.ended (.ok (.restored count)))
  | clear (d : Descriptor) (rest : List Descriptor) (count : Nat) :
      Restores m task (d :: rest) count (m.callMounter task (.unmount d.point))
        (.wait (.clearing d rest count))

/-- What an operation does on its way from one place to the next. -/
inductive Turn (fs : FileSystem σ) (s : Setup) (m : Manager σ) (task : TaskId) :
    ManagerEvent → Option Task → Manager σ → Next → Prop
  /-- A descriptor cannot be mounted. -/
  | refused {e : ManagerEvent} {old : Option Task} {d : Descriptor} {purpose : Purpose}
      {fault : Fault} : Starts task e old d purpose → Bars m d fault →
      Turn fs s m task e old m (.ended (.error fault))
  /-- A mount point is taken, and the mounter is called. -/
  | reserved {e : ManagerEvent} {old : Option Task} {d : Descriptor} {purpose : Purpose}
      {target : Url} : Starts task e old d purpose → d.validate = .ok target →
      m.slots.find? d.point = none →
      Turn fs s m task e old
        ({ m with slots := m.slots.insert d.point .pending }.callMounter task (.mount d))
        (.wait (.mounting d target purpose))
  /-- The mounter has attached a session. -/
  | attached {d : Descriptor} {target : Url} {purpose : Purpose} :
      Turn fs s m task (.returned task (.ok ())) (some (.mounting d target purpose))
        { m with sessions := m.sessions ++ [⟨d, s.settings d target, .ofInstant m.now⟩] }
        (.wait (.activating d m.sessions.length purpose))
  /-- The mounter has failed, and the mount point is free again. -/
  | released {d : Descriptor} {target : Url} {purpose : Purpose} {fault : Fault} :
      Turn fs s m task (.returned task (.error fault)) (some (.mounting d target purpose))
        { m with slots := m.slots.erase d.point } (.ended (.error fault))
  /-- A session is listed, and the list is saved. -/
  | listed {d : Descriptor} {i : SessionId} :
      Turn fs s m task (.activate task) (some (.activating d i .single))
        ((m.enlist d i).saveMounts fs s).2
        (.ended (((m.enlist d i).saveMounts fs s).1.map fun _ => .finished))
  /-- A session that was restored is listed. -/
  | relisted {d : Descriptor} {i : SessionId} {rest : List Descriptor} {count : Nat}
      {m₁ : Manager σ} {next : Next} : Restores (m.enlist d i) task rest count m₁ next →
      Turn fs s m task (.activate task) (some (.activating d i (.restoring rest count))) m₁ next
  /-- The table is loaded. -/
  | loaded {t : Table} {saved : List Descriptor} {m₁ : Manager σ} {next : Next} :
      s.table = some t → t.load fs m.files = .ok saved →
      Restores m task saved saved.length m₁ next → Turn fs s m task (.restore task) none m₁ next
  /-- There is no table, or it cannot be loaded. -/
  | notLoaded (r : Except Fault Done) : Turn fs s m task (.restore task) none m (.ended r)
  /-- Nothing is mounted at a mount point. -/
  | notMounted {p : Path} : (∀ i, m.slots.find? p ≠ some (.active i)) →
      Turn fs s m task (.unmount task p) none m (.ended (.error (.notMounted p)))
  /-- The session of a mount point is taken out, and the mounter is called. -/
  | takenOut {p : Path} {i : SessionId} {l : Live} : m.slots.find? p = some (.active i) →
      m.sessions[i]? = some l →
      Turn fs s m task (.unmount task p) none
        ({ m with
            slots := m.slots.erase p
            mounts := m.mounts.filter fun d => !d.point.same p }.callMounter task
              (.unmount l.descriptor.point))
        (.wait (.detaching i .save))
  /-- All sessions are taken out. -/
  | allTakenOut :
      Turn fs s m task (.shutDownAll task) none { m with slots := m.slots.pending }
        (stopNext m.slots.sessions)
  /-- The next session is to be stopped, and the mounter is called. -/
  | picked {rest : List SessionId} {i : SessionId} {l : Live} : i ∈ rest →
      m.sessions[i]? = some l →
      Turn fs s m task (.stop task i) (some (.stopping rest))
        (m.callMounter task (.unmount l.descriptor.point))
        (.wait (.detaching i (.stopMore (rest.erase i))))
  /-- The mounter has detached a session, and its connection is told to stop. -/
  | detached {i : SessionId} {l : Live} {k : Connection} {result : Except Fault Unit}
      {sequel : Sequel} : m.sessions[i]? = some l →
      l.connection.step l.settings .shutDown = some k →
      Turn fs s m task (.returned task result) (some (.detaching i sequel))
        { m with sessions := m.sessions.set i { l with connection := k } }
        (.wait (.joining i result sequel))
  /-- The connection of a session has closed. -/
  | joined {i : SessionId} {l : Live} {result : Except Fault Unit} {sequel : Sequel} :
      m.sessions[i]? = some l → l.connection.phase = .closed →
      Turn fs s m task (.join task) (some (.joining i result sequel)) m (sequel.next result)
  /-- The list is saved. -/
  | saved {result : Except Fault Unit} :
      Turn fs s m task (.save task) (some (.saving result)) (m.saveMounts fs s).2
        (.ended (((m.saveMounts fs s).1.bind fun _ => result).map fun _ => .finished))

/-- What an event can do to a manager. -/
inductive Effect (fs : FileSystem σ) (s : Setup) (m : Manager σ) :
    ManagerEvent → Manager σ → Prop
  /-- An operation begins under a new number. -/
  | begun {e : ManagerEvent} {task : TaskId} {m₁ : Manager σ} {next : Next} : m.fresh ≤ task →
      Turn fs s { m with fresh := task + 1 } task e none m₁ next →
      Effect fs s m e (m₁.put task next)
  /-- An operation goes on. -/
  | resumed {e : ManagerEvent} {task : TaskId} {old : Task} {m₁ : Manager σ} {next : Next} :
      m.task? task = some old → Turn fs s m task e (some old) m₁ next →
      Effect fs s m e (m₁.put task next)
  /-- Something happens to the connection of a session. -/
  | session {i : SessionId} {e : Event} {l : Live} {k : Connection} : isFree e = true →
      m.sessions[i]? = some l → l.connection.step l.settings e = some k →
      Effect fs s m (.session i e)
        { m with sessions := m.sessions.set i { l with connection := k } }
  | elapsed (duration : Nat) : Effect fs s m (.elapse duration)
      { m with
        now := m.now + duration
        sessions := m.sessions.map fun l =>
          { l with connection := { l.connection with now := l.connection.now + duration } } }

/-- An operation that begins has a new number. -/
theorem begin_bind_eq_some {f : Manager σ → Option (Manager σ)}
    (h : (m.begin task).bind f = some m') :
    m.fresh ≤ task ∧ f { m with fresh := task + 1 } = some m' := by
  obtain ⟨m₀, hm₀, hf⟩ := Option.bind_eq_some_iff.mp h
  unfold begin at hm₀
  split at hm₀
  · rename_i hfresh
    cases hm₀
    exact ⟨hfresh, hf⟩
  · cases hm₀

theorem stepSession_eq_some {i : SessionId} {e : Event} (h : m.stepSession i e = some m') :
    ∃ l k, m.sessions[i]? = some l ∧ l.connection.step l.settings e = some k ∧
      m' = { m with sessions := m.sessions.set i { l with connection := k } } := by
  obtain ⟨l, hl, h⟩ := Option.bind_eq_some_iff.mp h
  obtain ⟨k, hk, h⟩ := Option.bind_eq_some_iff.mp h
  cases h
  exact ⟨l, k, hl, hk, rfl⟩

theorem beginMount_turn (fs : FileSystem σ) (s : Setup) (m : Manager σ) {old : Option Task}
    {d : Descriptor} {purpose : Purpose} (h : Starts task e old d purpose) :
    ∃ m₁ next, Turn fs s m task e old m₁ next ∧ m.beginMount task d purpose = m₁.put task next := by
  unfold beginMount
  split
  · rename_i fault hfault
    exact ⟨m, _, .refused h (.invalid hfault), rfl⟩
  · rename_i target htarget
    split
    · rename_i htaken
      exact ⟨m, _, .refused h (.taken htarget htaken), rfl⟩
    · rename_i hfree
      exact ⟨_, _, .reserved h htarget (by simpa using hfree), rfl⟩

theorem continueRestore_turn (m : Manager σ) (task : TaskId) (rest : List Descriptor)
    (count : Nat) :
    ∃ m₁ next, Restores m task rest count m₁ next ∧
      m.continueRestore task rest count = m₁.put task next := by
  cases rest with
  | nil => exact ⟨m, _, .done count, rfl⟩
  | cons d rest => exact ⟨_, _, .clear d rest count, rfl⟩

theorem beginStop_eq_some {i : SessionId} {sequel : Sequel}
    (h : m.beginStop task i sequel = some m') :
    ∃ l, m.sessions[i]? = some l ∧
      m' = (m.callMounter task (.unmount l.descriptor.point)).put task
        (.wait (.detaching i sequel)) := by
  obtain ⟨l, hl, rfl⟩ := Option.map_eq_some_iff.mp h
  exact ⟨l, hl, rfl⟩

theorem beginUnmount_turn (fs : FileSystem σ) (s : Setup) {p : Path}
    (h : m.beginUnmount task p = some m') :
    ∃ m₁ next, Turn fs s m task (.unmount task p) none m₁ next ∧ m' = m₁.put task next := by
  unfold beginUnmount at h
  split at h
  · rename_i i hslot
    obtain ⟨l, hl, rfl⟩ := beginStop_eq_some h
    exact ⟨_, _, .takenOut hslot hl, rfl⟩
  · rename_i hslot
    cases h
    exact ⟨m, _, .notMounted hslot, rfl⟩

theorem goOn_turn (fs : FileSystem σ) {result : Except Fault Unit} {old : Task}
    (h : m.goOn s task result old = some m') :
    ∃ m₁ next, Turn fs s m task (.returned task result) (some old) m₁ next ∧
      m' = m₁.put task next := by
  unfold goOn at h
  split at h
  · rename_i d rest count
    cases h
    exact beginMount_turn fs s m (.restore result d rest count)
  · split at h
    · cases h
      exact ⟨_, _, .attached, rfl⟩
    · cases h
      exact ⟨_, _, .released, rfl⟩
  · obtain ⟨m₁, hm₁, rfl⟩ := Option.map_eq_some_iff.mp h
    obtain ⟨l, k, hl, hk, rfl⟩ := stepSession_eq_some hm₁
    exact ⟨_, _, .detached hl hk, rfl⟩
  · cases h

theorem activate_turn (fs : FileSystem σ) (s : Setup) (m : Manager σ) (task : TaskId)
    (d : Descriptor) (i : SessionId) (purpose : Purpose) :
    ∃ m₁ next, Turn fs s m task (.activate task) (some (.activating d i purpose)) m₁ next ∧
      m.activate fs s task d i purpose = m₁.put task next := by
  cases purpose with
  | single => exact ⟨_, _, .listed, rfl⟩
  | restoring rest count =>
    obtain ⟨m₁, next, hrest, heq⟩ := continueRestore_turn (m.enlist d i) task rest count
    exact ⟨m₁, next, .relisted hrest, heq⟩

/-- A step does what `Effect` says, and nothing else. -/
theorem step_effect (h : m.step fs s e = some m') : Effect fs s m e m' := by
  cases e with
  | mount task d =>
    obtain ⟨hfresh, h⟩ := begin_bind_eq_some h
    have hstarts : Starts task (.mount task d) none d .single := .mount d
    obtain ⟨m₁, next, hturn, heq⟩ := beginMount_turn fs s { m with fresh := task + 1 } hstarts
    cases h
    rw [heq]
    exact .begun hfresh hturn
  | unmount task p =>
    obtain ⟨hfresh, h⟩ := begin_bind_eq_some h
    obtain ⟨m₁, next, hturn, rfl⟩ := beginUnmount_turn fs s h
    exact .begun hfresh hturn
  | restore task =>
    obtain ⟨hfresh, h⟩ := begin_bind_eq_some h
    split at h
    · cases h
      exact .begun hfresh (.notLoaded _)
    · rename_i table htable
      split at h
      · cases h
        exact .begun hfresh (.notLoaded _)
      · rename_i saved hload
        cases h
        obtain ⟨m₁, next, hrest, heq⟩ :=
          continueRestore_turn { m with fresh := task + 1 } task saved saved.length
        rw [heq]
        exact .begun hfresh (.loaded htable hload hrest)
  | shutDownAll task =>
    obtain ⟨hfresh, h⟩ := begin_bind_eq_some h
    cases h
    rw [continueStop_eq]
    exact .begun hfresh .allTakenOut
  | returned task result =>
    obtain ⟨old, hold, h⟩ := Option.bind_eq_some_iff.mp h
    obtain ⟨m₁, next, hturn, rfl⟩ := goOn_turn fs h
    exact .resumed hold hturn
  | activate task =>
    simp only [step] at h
    split at h
    · rename_i d i purpose hold
      cases h
      obtain ⟨m₁, next, hturn, heq⟩ := activate_turn fs s m task d i purpose
      rw [heq]
      exact .resumed hold hturn
    · cases h
  | join task =>
    simp only [step] at h
    split at h
    · rename_i i result sequel hold
      split at h
      · rename_i hclosed
        cases h
        obtain ⟨l, hl, hphase⟩ := (Option.any_eq_true _ _).mp hclosed
        rw [follow_eq]
        exact .resumed hold (.joined hl (by simpa using hphase))
      · cases h
    · cases h
  | save task =>
    simp only [step] at h
    split at h
    · rename_i result hold
      cases h
      exact .resumed hold .saved
    · cases h
  | stop task i =>
    simp only [step] at h
    split at h
    · rename_i rest hold
      split at h
      · rename_i hmem
        obtain ⟨l, hl, rfl⟩ := beginStop_eq_some h
        exact .resumed hold (.picked hmem hl)
      · cases h
    · cases h
  | session i e =>
    simp only [step] at h
    split at h
    · rename_i hfree
      obtain ⟨l, k, hl, hk, rfl⟩ := stepSession_eq_some h
      exact .session hfree hl hk
    · cases h
  | elapse duration =>
    cases h
    exact .elapsed duration

end Manager

end FsGateway.Gateway
