import FsGateway.Proofs.Connection.Places
import FsGateway.Proofs.Manager.Slots
import FsGateway.Proofs.Manager.Turn

/-!
# Who holds mount points and sessions

A mount point that is about to be mounted is in the hands of one operation, and a session in those of
its slot or of one operation. A turn hands them on; a session leaves all hands only when its
connection has closed.

* `Turn.exchange`, `Turn.points`: how a turn hands on sessions and mount points.
* `Sound`: what holds of a manager after every run.
-/

namespace FsGateway.Gateway

open Mount (Path Descriptor Fault FileSystem Table)

/-! ## What operations hold -/

/-- The sessions that are still to be stopped after one. -/
def Sequel.sessions : Sequel → List SessionId
  | .save => []
  | .stopMore rest => rest

/-- The sessions that an operation holds. -/
def Task.sessions : Task → List SessionId
  | .activating _ i _ => [i]
  | .detaching i sequel | .joining i _ sequel => i :: sequel.sessions
  | .stopping rest => rest
  | .clearing .. | .mounting .. | .saving _ => []

/-- The mount point that an operation is about to mount. -/
def Task.point? : Task → Option Path
  | .mounting d _ _ | .activating d _ _ => some d.point
  | _ => none

theorem Starts.sessions {task : TaskId} {e : ManagerEvent} {old : Option Task} {d : Descriptor}
    {purpose : Purpose} (h : Starts task e old d purpose) :
    old.toList.flatMap Task.sessions = [] := by
  cases h <;> rfl

theorem Starts.points {task : TaskId} {e : ManagerEvent} {old : Option Task} {d : Descriptor}
    {purpose : Purpose} (h : Starts task e old d purpose) :
    old.toList.filterMap Task.point? = [] := by
  cases h <;> rfl

theorem stopNext_sessions (rest : List SessionId) :
    (stopNext rest).task?.toList.flatMap Task.sessions = rest := by
  unfold stopNext
  split
  · rename_i h
    exact (List.isEmpty_iff.mp h).symm
  · simp [Next.task?, Task.sessions]

theorem stopNext_points (rest : List SessionId) :
    (stopNext rest).task?.toList.filterMap Task.point? = [] := by
  unfold stopNext
  split <;> rfl

theorem Sequel.next_sessions (result : Except Fault Unit) (sequel : Sequel) :
    (sequel.next result).task?.toList.flatMap Task.sessions = sequel.sessions := by
  cases sequel with
  | save => rfl
  | stopMore rest => exact stopNext_sessions rest

theorem Sequel.next_points (result : Except Fault Unit) (sequel : Sequel) :
    (sequel.next result).task?.toList.filterMap Task.point? = [] := by
  cases sequel with
  | save => rfl
  | stopMore rest => exact stopNext_points rest

/-! ## How sessions change -/

/-- Sessions stay, with their descriptors, and a connection that is closed stays closed. -/
def Evolves (a b : List Live) : Prop :=
  ∀ (i : SessionId) (l : Live), a[i]? = some l → ∃ l', b[i]? = some l' ∧
    l'.descriptor = l.descriptor ∧ (l.connection.phase = .closed → l'.connection.phase = .closed)

theorem Evolves.refl (a : List Live) : Evolves a a := fun _ l hl => ⟨l, hl, rfl, id⟩

theorem evolves_concat (a : List Live) (l : Live) : Evolves a (a ++ [l]) := by
  intro i l' hl'
  obtain ⟨hi, -⟩ := List.getElem?_eq_some_iff.mp hl'
  exact ⟨l', by rw [List.getElem?_append_left hi, hl'], rfl, id⟩

/-- A session whose connection makes a step. -/
theorem evolves_set {a : List Live} {i : SessionId} {l : Live} {e : Event} {k : Connection}
    (hl : a[i]? = some l) (hk : l.connection.step l.settings e = some k) :
    Evolves a (a.set i { l with connection := k }) := by
  intro j l' hl'
  obtain ⟨hi, -⟩ := List.getElem?_eq_some_iff.mp hl
  by_cases h : i = j
  · subst h
    cases hl.symm.trans hl'
    exact ⟨_, List.getElem?_set_self hi, rfl, Connection.step_closed hk⟩
  · exact ⟨l', by rw [List.getElem?_set_ne h, hl'], rfl, id⟩

theorem evolves_map {a : List Live} {f : Live → Live}
    (hf : ∀ l, (f l).descriptor = l.descriptor ∧
      (l.connection.phase = .closed → (f l).connection.phase = .closed)) :
    Evolves a (a.map f) := by
  intro i l hl
  exact ⟨f l, by rw [List.getElem?_map, hl, Option.map_some], (hf l).1, (hf l).2⟩

/-- How the sessions that someone holds change: they are handed on, one more is attached, or one is
let go whose connection has closed. -/
inductive Exchange (a b : List Live) (before after : List SessionId) : Prop
  | kept : b.length = a.length → after.Perm before → Exchange a b before after
  | gained : b.length = a.length + 1 → after.Perm (a.length :: before) → Exchange a b before after
  | dropped {i : SessionId} {l : Live} : b = a → a[i]? = some l → l.connection.phase = .closed →
      before.Perm (i :: after) → Exchange a b before after

namespace Exchange

variable {a b : List Live} {before after : List SessionId} (rest : List SessionId)

theorem append (h : Exchange a b before after) : Exchange a b (before ++ rest) (after ++ rest) := by
  cases h with
  | kept hlength hperm => exact .kept hlength (hperm.append_right rest)
  | gained hlength hperm => exact .gained hlength (hperm.append_right rest)
  | dropped hsame hl hclosed hperm => exact .dropped hsame hl hclosed (hperm.append_right rest)

theorem perm {before' after' : List SessionId} (h : Exchange a b before after)
    (hbefore : before.Perm before') (hafter : after.Perm after') :
    Exchange a b before' after' := by
  cases h with
  | kept hlength hperm => exact .kept hlength (hafter.symm.trans (hperm.trans hbefore))
  | gained hlength hperm =>
    exact .gained hlength (hafter.symm.trans (hperm.trans (hbefore.cons _)))
  | dropped hsame hl hclosed hperm =>
    exact .dropped hsame hl hclosed (hbefore.symm.trans (hperm.trans (hafter.cons _)))

theorem lt (h : Exchange a b before after) (hlt : ∀ i ∈ before, i < a.length) :
    ∀ i ∈ after, i < b.length := by
  intro i hi
  cases h with
  | kept hlength hperm =>
    rw [hlength]
    exact hlt i (hperm.mem_iff.mp hi)
  | gained hlength hperm =>
    rw [hlength]
    rcases List.mem_cons.mp (hperm.mem_iff.mp hi) with rfl | hi
    · exact Nat.lt_succ_self _
    · exact Nat.lt_succ_of_lt (hlt i hi)
  | dropped hsame hl hclosed hperm =>
    rw [hsame]
    exact hlt i (hperm.mem_iff.mpr (List.mem_cons_of_mem _ hi))

theorem nodup (h : Exchange a b before after) (hlt : ∀ i ∈ before, i < a.length)
    (hn : before.Nodup) : after.Nodup := by
  cases h with
  | kept hlength hperm => exact hperm.nodup_iff.mpr hn
  | gained hlength hperm =>
    refine hperm.nodup_iff.mpr (List.nodup_cons.mpr ⟨fun hmem => ?_, hn⟩)
    exact absurd (hlt _ hmem) (Nat.lt_irrefl _)
  | dropped hsame hl hclosed hperm => exact (List.nodup_cons.mp (hperm.nodup_iff.mp hn)).2

/-- Whoever is not held is closed. -/
theorem closed (h : Exchange a b before after) (hab : Evolves a b)
    (hclosed : ∀ (i : SessionId) (l : Live), a[i]? = some l →
      i ∈ before ∨ l.connection.phase = .closed) :
    ∀ (i : SessionId) (l : Live), b[i]? = some l → i ∈ after ∨ l.connection.phase = .closed := by
  intro i l' hl'
  -- a session that was there is held or closed still, unless it is the one that is let go
  have hold : ∀ l, a[i]? = some l → (i ∈ before → i ∈ after ∨ l'.connection.phase = .closed) →
      i ∈ after ∨ l'.connection.phase = .closed := by
    intro l hl hheld
    obtain ⟨l₁, hl₁, -, hstays⟩ := hab i l hl
    cases hl₁.symm.trans hl'
    rcases hclosed i l hl with hi | hphase
    · exact hheld hi
    · exact Or.inr (hstays hphase)
  obtain ⟨hi, -⟩ := List.getElem?_eq_some_iff.mp hl'
  cases h with
  | kept hlength hperm =>
    rw [hlength] at hi
    exact hold a[i] (List.getElem?_eq_getElem hi) fun hi => Or.inl (hperm.mem_iff.mpr hi)
  | gained hlength hperm =>
    by_cases hnew : i = a.length
    · exact Or.inl (hperm.mem_iff.mpr (hnew ▸ List.mem_cons_self))
    · rw [hlength] at hi
      have hi' : i < a.length := Nat.lt_of_le_of_ne (Nat.le_of_lt_succ hi) hnew
      exact hold a[i] (List.getElem?_eq_getElem hi') fun hi =>
        Or.inl (hperm.mem_iff.mpr (List.mem_cons_of_mem _ hi))
  | @dropped j l hsame hl hphase hperm =>
    rw [hsame] at hl'
    refine hold l' hl' fun hi => ?_
    rcases List.mem_cons.mp (hperm.mem_iff.mp hi) with rfl | hi
    · cases hl.symm.trans hl'
      exact Or.inr hphase
    · exact Or.inl hi

end Exchange

namespace Manager

variable {σ : Type} {fs : FileSystem σ} {s : Setup} {m m' m₁ : Manager σ} {task : TaskId}
  {e : ManagerEvent} {old : Option Task} {next : Next}

/-! ## Turns -/

theorem Restores.frame {rest : List Descriptor} {count : Nat}
    (h : Restores m task rest count m₁ next) : m₁.slots = m.slots ∧ m₁.sessions = m.sessions ∧
      m₁.mounts = m.mounts ∧ m₁.files = m.files ∧ m₁.fresh = m.fresh := by
  cases h <;> exact ⟨rfl, rfl, rfl, rfl, rfl⟩

theorem Restores.holds_nothing {rest : List Descriptor} {count : Nat}
    (h : Restores m task rest count m₁ next) :
    next.task?.toList.flatMap Task.sessions = [] ∧ next.task?.toList.filterMap Task.point? = [] := by
  cases h <;> exact ⟨rfl, rfl⟩

theorem Turn.evolves (h : Turn fs s m task e old m₁ next) : Evolves m.sessions m₁.sessions := by
  cases h with
  | attached => exact evolves_concat _ _
  | detached hl hk => exact evolves_set hl hk
  | relisted hrest =>
    rw [hrest.frame.2.1]
    exact .refl _
  | loaded ht hload hrest =>
    rw [hrest.frame.2.1]
    exact .refl _
  | listed =>
    rw [saveMounts_sessions]
    exact .refl _
  | saved =>
    rw [saveMounts_sessions]
    exact .refl _
  | _ => exact .refl _

/-- The slot of a mount point, where a session is listed, was pending. -/
theorem enlist_sessions {d : Descriptor} {i : SessionId} {rest : List Path}
    (hd : m.slots.Distinct) (hr : m.slots.reserved.Perm (d.point :: rest)) :
    (m.enlist d i).slots.sessions.Perm (i :: m.slots.sessions) := by
  have hmem : (d.point, .pending) ∈ m.slots :=
    Slots.mem_reserved_iff.mp (hr.mem_iff.mpr List.mem_cons_self)
  have hperm := Slots.sessions_perm (Slots.perm_erase hd hmem rfl)
  rw [Slots.sessions_cons_pending] at hperm
  have hslots : (m.enlist d i).slots.sessions = (m.slots.erase d.point).sessions ++ [i] := by
    rw [enlist, Slots.insert, Slots.sessions_append]
    rfl
  rw [hslots]
  exact (List.perm_append_singleton _ _).trans (hperm.symm.cons i)

/-- How a turn hands on sessions. -/
theorem Turn.exchange {rest : List Path} (h : Turn fs s m task e old m₁ next)
    (hd : m.slots.Distinct)
    (hr : m.slots.reserved.Perm (old.toList.filterMap Task.point? ++ rest)) :
    Exchange m.sessions m₁.sessions (m.slots.sessions ++ old.toList.flatMap Task.sessions)
      (m₁.slots.sessions ++ next.task?.toList.flatMap Task.sessions) := by
  cases h with
  | refused hstarts hbars =>
    rw [hstarts.sessions]
    exact .kept rfl (List.Perm.refl _)
  | @reserved e old d purpose target hstarts hvalid hfree =>
    refine .kept rfl ?_
    have hslots : (m.slots.insert d.point .pending).sessions = m.slots.sessions := by
      rw [Slots.insert_of_find?_eq_none hfree, Slots.sessions_append]
      exact List.append_nil _
    simp [hstarts.sessions, hslots, callMounter, Next.task?, Task.sessions]
  | attached =>
    refine .gained (by simp) ?_
    simp [Next.task?, Task.sessions]
  | @released d target purpose fault =>
    refine .kept rfl ?_
    have hmem : (d.point, .pending) ∈ m.slots :=
      Slots.mem_reserved_iff.mp (hr.mem_iff.mpr (by simp [Task.point?]))
    have hperm := Slots.sessions_perm (Slots.perm_erase hd hmem rfl)
    exact hperm.symm.append_right []
  | @listed d i =>
    refine .kept (by simp [enlist]) ?_
    simpa [Next.task?, Task.sessions] using
      (enlist_sessions hd hr).trans (List.perm_append_singleton i m.slots.sessions).symm
  | @relisted d i others count m₁ next hrest =>
    rw [hrest.frame.1, hrest.frame.2.1, hrest.holds_nothing.1, List.append_nil]
    exact .kept rfl
      ((enlist_sessions hd hr).trans (List.perm_append_singleton i m.slots.sessions).symm)
  | loaded ht hload hrest =>
    rw [hrest.frame.1, hrest.frame.2.1, hrest.holds_nothing.1]
    exact .kept rfl (List.Perm.refl _)
  | notLoaded r => exact .kept rfl (List.Perm.refl _)
  | notMounted hp => exact .kept rfl (List.Perm.refl _)
  | @takenOut p i l hslot hl =>
    refine .kept rfl ?_
    obtain ⟨q, hmem, hq⟩ := Slots.mem_of_find? hslot
    have hperm := Slots.sessions_perm (Slots.perm_erase hd hmem hq)
    rw [Slots.sessions_cons_active] at hperm
    have hafter := (List.perm_append_singleton i (m.slots.erase p).sessions).trans hperm.symm
    simpa [callMounter, Next.task?, Task.sessions, Sequel.sessions] using hafter
  | allTakenOut =>
    rw [stopNext_sessions]
    refine .kept rfl ?_
    simp
  | @picked waiting i l hi hl =>
    refine .kept rfl ?_
    have hperm := (List.perm_cons_erase hi).symm.append_left m.slots.sessions
    simpa [callMounter, Next.task?, Task.sessions, Sequel.sessions] using hperm
  | detached hl hk =>
    refine .kept (by simp) ?_
    exact List.Perm.refl _
  | joined hl hphase =>
    rw [Sequel.next_sessions]
    refine .dropped rfl hl hphase ?_
    simp [Task.sessions]
  | saved =>
    refine .kept (by simp) ?_
    simp [Next.task?, Task.sessions]

/-- How a turn hands on mount points that are about to be mounted. -/
theorem Turn.points {rest : List Path} (h : Turn fs s m task e old m₁ next)
    (hd : m.slots.Distinct)
    (hr : m.slots.reserved.Perm (old.toList.filterMap Task.point? ++ rest)) :
    m₁.slots.reserved.Perm (next.task?.toList.filterMap Task.point? ++ rest) := by
  -- the mount point of an operation has a pending slot, and the others are reserved by the rest
  have herase : ∀ p, old.toList.filterMap Task.point? = [p] →
      (m.slots.erase p).reserved.Perm rest := by
    intro p hp
    rw [hp] at hr
    have hmem : (p, .pending) ∈ m.slots :=
      Slots.mem_reserved_iff.mp (hr.mem_iff.mpr List.mem_cons_self)
    have hperm := Slots.reserved_perm (Slots.perm_erase hd hmem rfl)
    exact List.Perm.cons_inv (hperm.symm.trans hr)
  cases h with
  | refused hstarts hbars =>
    rw [hstarts.points] at hr
    exact hr
  | @reserved e old d purpose target hstarts hvalid hfree =>
    rw [hstarts.points] at hr
    have hslots : (m.slots.insert d.point .pending).reserved = m.slots.reserved ++ [d.point] := by
      rw [Slots.insert_of_find?_eq_none hfree, Slots.reserved_append]
      rfl
    simpa [callMounter, hslots, Next.task?, Task.point?] using
      (hr.append_right [d.point]).trans (List.perm_append_singleton _ _)
  | attached => exact hr
  | released => exact herase _ rfl
  | @listed d i =>
    have hslots : (m.enlist d i).slots.reserved = (m.slots.erase d.point).reserved := by
      rw [enlist, Slots.insert, Slots.reserved_append]
      exact List.append_nil _
    rw [saveMounts_slots, hslots]
    exact herase _ rfl
  | @relisted d i others count m₁ next hrest =>
    have hslots : (m.enlist d i).slots.reserved = (m.slots.erase d.point).reserved := by
      rw [enlist, Slots.insert, Slots.reserved_append]
      exact List.append_nil _
    rw [hrest.frame.1, hrest.holds_nothing.2, hslots]
    exact herase _ rfl
  | loaded ht hload hrest =>
    rw [hrest.frame.1, hrest.holds_nothing.2]
    exact hr
  | notLoaded r => exact hr
  | notMounted hp => exact hr
  | @takenOut p i l hslot hl =>
    obtain ⟨q, hmem, hq⟩ := Slots.mem_of_find? hslot
    have hperm := Slots.reserved_perm (Slots.perm_erase hd hmem hq)
    exact hperm.symm.trans hr
  | allTakenOut =>
    rw [stopNext_points, Slots.reserved_pending]
    exact hr
  | picked hi hl => exact hr
  | detached hl hk => exact hr
  | joined hl hphase =>
    rw [Sequel.next_points]
    exact hr
  | saved =>
    rw [saveMounts_slots]
    exact hr

/-- How slots change when an operation leaves the place where it waited. -/
inductive Reslots (a : Slots) (old : Option Task) : Slots → Prop
  | same : Reslots a old a
  | reserved (p : Path) : Reslots a old (a.insert p .pending)
  | erased (p : Path) : Reslots a old (a.erase p)
  | activated {d : Descriptor} {i : SessionId} {purpose : Purpose} :
      old = some (.activating d i purpose) → Reslots a old (a.insert d.point (.active i))
  | emptied : Reslots a old a.pending

theorem Turn.reslots (h : Turn fs s m task e old m₁ next) : Reslots m.slots old m₁.slots := by
  cases h with
  | reserved hstarts hvalid hfree => exact .reserved _
  | released => exact .erased _
  | listed =>
    rw [saveMounts_slots]
    exact .activated rfl
  | relisted hrest =>
    rw [hrest.frame.1]
    exact .activated rfl
  | loaded ht hload hrest =>
    rw [hrest.frame.1]
    exact .same
  | takenOut hslot hl => exact .erased _
  | allTakenOut => exact .emptied
  | saved =>
    rw [saveMounts_slots]
    exact .same
  | _ => exact .same

theorem Reslots.distinct {a b : Slots} (h : Reslots a old b) (ha : a.Distinct) : b.Distinct := by
  cases h with
  | same => exact ha
  | reserved p => exact ha.insert p _
  | erased p => exact ha.erase p
  | activated hold => exact ha.insert _ _
  | emptied => exact ha.pending

/-- A slot is active already, or its session was in the hands of the operation. -/
theorem Reslots.active {a b : Slots} {p : Path} {i : SessionId} (h : Reslots a old b)
    (hp : (p, .active i) ∈ b) : (p, .active i) ∈ a ∨
      ∃ d purpose, old = some (.activating d i purpose) ∧ p = d.point := by
  cases h with
  | same => exact Or.inl hp
  | reserved q =>
    rcases List.mem_append.mp hp with hp | hp
    · exact Or.inl (List.mem_of_mem_filter hp)
    · cases List.mem_singleton.mp hp
  | erased q => exact Or.inl (List.mem_of_mem_filter hp)
  | @activated d j purpose hold =>
    rcases List.mem_append.mp hp with hp | hp
    · exact Or.inl (List.mem_of_mem_filter hp)
    · cases List.mem_singleton.mp hp
      exact Or.inr ⟨d, purpose, hold, rfl⟩
  | emptied => exact Or.inl (List.mem_of_mem_filter hp)

theorem stopNext_ne_wait {rest : List SessionId} {d : Descriptor} {i : SessionId}
    {purpose : Purpose} : (stopNext rest).task? ≠ some (.activating d i purpose) := by
  unfold stopNext
  split <;> simp [Next.task?]

/-- An operation that waits to activate a session has just attached it. -/
theorem Turn.activating {d : Descriptor} {i : SessionId} {purpose : Purpose}
    (h : Turn fs s m task e old m₁ next) (hnext : next.task? = some (.activating d i purpose)) :
    ∃ l, m₁.sessions[i]? = some l ∧ l.descriptor = d := by
  cases h with
  | @attached d target purpose =>
    cases hnext
    refine ⟨⟨d, s.settings d target, .ofInstant m.now⟩, ?_, rfl⟩
    exact List.getElem?_concat_length
  | relisted hrest => cases hrest <;> cases hnext
  | loaded ht hload hrest => cases hrest <;> cases hnext
  | allTakenOut => exact absurd hnext stopNext_ne_wait
  | @joined i l result sequel hl hphase =>
    cases sequel with
    | save => cases hnext
    | stopMore rest => exact absurd hnext stopNext_ne_wait
  | _ => cases hnext

theorem Turn.frame (h : Turn fs s m task e old m₁ next) :
    m₁.tasks = m.tasks ∧ m₁.fresh = m.fresh := by
  cases h with
  | relisted hrest => cases hrest <;> exact ⟨rfl, rfl⟩
  | loaded ht hload hrest => cases hrest <;> exact ⟨rfl, rfl⟩
  | listed => exact ⟨saveMounts_tasks, saveMounts_fresh⟩
  | saved => exact ⟨saveMounts_tasks, saveMounts_fresh⟩
  | _ => exact ⟨rfl, rfl⟩

/-! ## What holds after every run -/

/-- The sessions that someone holds: slots or operations. -/
def held (m : Manager σ) : List SessionId := m.slots.sessions ++ m.tasks.flatMap (·.2.sessions)

/-- What holds of a manager after every run. -/
structure Sound (m : Manager σ) : Prop where
  ids : (m.tasks.map (·.1)).Nodup
  below : ∀ entry ∈ m.tasks, entry.1 < m.fresh
  distinct : m.slots.Distinct
  /-- Each mount point with a pending slot is in the hands of one operation. -/
  reserved : m.slots.reserved.Perm (m.tasks.filterMap (·.2.point?))
  /-- No session is held twice. -/
  once : m.held.Nodup
  exist : ∀ i ∈ m.held, i < m.sessions.length
  /-- A session that nobody holds is closed. -/
  closed : ∀ (i : SessionId) (l : Live), m.sessions[i]? = some l →
    i ∈ m.held ∨ l.connection.phase = .closed
  placed : ∀ (p : Path) (i : SessionId) (l : Live), (p, .active i) ∈ m.slots →
    m.sessions[i]? = some l → l.descriptor.point = p
  activating : ∀ task d (i : SessionId) purpose (l : Live),
    (task, .activating d i purpose) ∈ m.tasks → m.sessions[i]? = some l → l.descriptor = d

theorem Sound.exists_session (hm : Sound m) {i : SessionId} (h : i ∈ m.held) :
    ∃ l, m.sessions[i]? = some l :=
  ⟨_, List.getElem?_eq_getElem (hm.exist i h)⟩

theorem mem_held_of_slot {p : Path} {i : SessionId} (h : (p, .active i) ∈ m.slots) : i ∈ m.held :=
  List.mem_append_left _ (Slots.mem_sessions_iff.mpr ⟨p, h⟩)

theorem mem_held_of_task {t : Task} {i : SessionId} (h : (task, t) ∈ m.tasks)
    (hi : i ∈ t.sessions) : i ∈ m.held :=
  List.mem_append_right _ (List.mem_flatMap.mpr ⟨(task, t), h, hi⟩)

/-- No two operations are about to mount one mount point. -/
theorem Sound.eq_of_point (hm : Sound m) {a b : TaskId × Task} {p q : Path} (ha : a ∈ m.tasks)
    (hb : b ∈ m.tasks) (hpa : a.2.point? = some p) (hqb : b.2.point? = some q)
    (h : p.key = q.key) : a = b := by
  have hslots : (m.slots.reserved.map Path.key).Nodup := by
    rw [Slots.reserved, List.map_map]
    exact hm.distinct.pending
  have htasks := ((hm.reserved.map Path.key).nodup_iff.mp hslots)
  rw [List.map_filterMap] at htasks
  refine Keyed.eq_of_filterMap htasks ha hb (k := p.key) ?_ ?_
  · rw [hpa, Option.map_some]
  · rw [hqb, Option.map_some, h]

/-- The operations: one at its place, and the rest. -/
def Stands (m : Manager σ) (task : TaskId) (old : Option Task) (rest : List (TaskId × Task)) :
    Prop :=
  m.tasks.Perm (old.toList.map (task, ·) ++ rest)

section Stands

variable {rest : List (TaskId × Task)}

theorem Stands.held (h : Stands m task old rest) : m.held.Perm (m.slots.sessions ++
    old.toList.flatMap Task.sessions ++ rest.flatMap (·.2.sessions)) := by
  rw [List.append_assoc]
  refine List.Perm.append_left _ ((h.flatMap_right _).trans ?_)
  rw [List.flatMap_append, List.flatMap_map]

theorem Stands.points (h : Stands m task old rest) : (m.tasks.filterMap (·.2.point?)).Perm
    (old.toList.filterMap Task.point? ++ rest.filterMap (·.2.point?)) := by
  refine (h.filterMap _).trans ?_
  rw [List.filterMap_append, List.filterMap_map]
  exact List.Perm.refl _

theorem Sound.task?_of_mem {t : Task} (hm : Sound m) (h : (task, t) ∈ m.tasks) :
    m.task? task = some t := by
  obtain ⟨before, after, hsplit⟩ := List.append_of_mem h
  refine List.lookup_eq_some_iff.mpr ⟨before, after, hsplit, fun entry hentry => ?_⟩
  have hids := hm.ids
  rw [hsplit, List.map_append] at hids
  have hapart := (List.nodup_append.mp hids).2.2 entry.1 (List.mem_map_of_mem hentry)
  simpa using (hapart task (by simp)).symm

theorem Sound.stands_of_task? {t : Task} (hm : Sound m) (h : m.task? task = some t) :
    Stands m task (some t) (m.others task) :=
  Keyed.perm_cons_filter hm.ids (mem_of_task? h)

theorem Sound.stands_of_fresh (hm : Sound m) (h : m.fresh ≤ task) :
    Stands m task none (m.others task) := by
  have hothers : m.others task = m.tasks := by
    refine List.filter_eq_self.mpr fun entry hentry => ?_
    have hlt := hm.below entry hentry
    simpa using Nat.ne_of_lt (Nat.lt_of_lt_of_le hlt h)
  rw [Stands, hothers]
  exact List.Perm.refl _

theorem put_stands (m : Manager σ) (task : TaskId) (next : Next) :
    Stands (m.put task next) task next.task? (m.others task) := by
  rw [Stands, put_tasks]
  exact List.perm_append_comm

end Stands

/-! ## Every step keeps it -/

section Step

variable (hm : Sound m) (h : Turn fs s m task e old m₁ next)
  (hold : Stands m task old (m.others task))

include hm h

theorem Sound.activating_put (task' : TaskId) (d : Descriptor) (i : SessionId) (purpose : Purpose)
    (l : Live) (htask : (task', .activating d i purpose) ∈ (m₁.put task next).tasks)
    (hl : (m₁.put task next).sessions[i]? = some l) : l.descriptor = d := by
  rw [put_sessions] at hl
  rcases List.mem_append.mp ((put_stands m₁ task next).mem_iff.mp htask) with hnew | hrest
  · obtain ⟨t, ht, hpair⟩ := List.mem_map.mp hnew
    cases hpair
    obtain ⟨l₁, hl₁, hd⟩ := h.activating (Option.mem_toList.mp ht)
    cases hl₁.symm.trans hl
    exact hd
  · rw [others, h.frame.1] at hrest
    have hmem := List.mem_of_mem_filter hrest
    obtain ⟨l₀, hl₀⟩ := hm.exists_session (mem_held_of_task hmem List.mem_cons_self)
    obtain ⟨l₁, hl₁, hsame, -⟩ := h.evolves i l₀ hl₀
    cases hl₁.symm.trans hl
    rw [hsame]
    exact hm.activating task' d i purpose l₀ hmem hl₀

include hold

theorem Sound.exchange :
    Exchange m.sessions (m₁.put task next).sessions m.held (m₁.put task next).held := by
  have hothers : m₁.others task = m.others task := by rw [others, others, h.frame.1]
  have hpoints := hm.reserved.trans hold.points
  have hhanded := (h.exchange hm.distinct hpoints).append ((m.others task).flatMap (·.2.sessions))
  have hafter := (put_stands m₁ task next).held
  rw [put_slots, hothers] at hafter
  rw [put_sessions]
  exact hhanded.perm hold.held.symm hafter.symm

/-- Where an operation has gone, sessions and slots belong together as before. -/
theorem Sound.placed_put (p : Path) (i : SessionId) (l : Live)
    (hp : (p, .active i) ∈ (m₁.put task next).slots)
    (hl : (m₁.put task next).sessions[i]? = some l) : l.descriptor.point = p := by
  rw [put_slots] at hp
  rw [put_sessions] at hl
  rcases h.reslots.active hp with hp | ⟨d, purpose, rfl, rfl⟩
  · obtain ⟨l₀, hl₀⟩ := hm.exists_session (mem_held_of_slot hp)
    obtain ⟨l₁, hl₁, hsame, -⟩ := h.evolves i l₀ hl₀
    cases hl₁.symm.trans hl
    rw [hsame]
    exact hm.placed p i l₀ hp hl₀
  · have hmem : (task, .activating d i purpose) ∈ m.tasks :=
      hold.mem_iff.mpr (List.mem_append_left _ List.mem_cons_self)
    obtain ⟨l₀, hl₀⟩ := hm.exists_session (mem_held_of_task hmem List.mem_cons_self)
    obtain ⟨l₁, hl₁, hsame, -⟩ := h.evolves i l₀ hl₀
    cases hl₁.symm.trans hl
    rw [hsame, hm.activating task d i purpose l₀ hmem hl₀]

theorem Sound.turn (hfresh : task < m.fresh) : Sound (m₁.put task next) := by
  have hothers : m₁.others task = m.others task := by rw [others, others, h.frame.1]
  have hexchange := hm.exchange h hold
  have hevolves : Evolves m.sessions (m₁.put task next).sessions := by
    rw [put_sessions]
    exact h.evolves
  have htasks : (m₁.put task next).tasks = m.others task ++ next.task?.toList.map (task, ·) := by
    rw [put_tasks, hothers]
  refine ⟨?_, ?_, ?_, ?_, hexchange.nodup hm.exist hm.once, hexchange.lt hm.exist,
    hexchange.closed hevolves hm.closed, hm.placed_put h hold, hm.activating_put h⟩
  · have hout : task ∉ (m.others task).map (·.1) := by simp [others]
    have hrest : ((m.others task).map (·.1)).Nodup := hm.ids.sublist (List.filter_sublist.map _)
    rw [htasks, List.map_append, List.map_map]
    cases next.task? with
    | none => simpa using hrest
    | some t =>
      exact (List.perm_append_singleton _ _).nodup_iff.mpr (List.nodup_cons.mpr ⟨hout, hrest⟩)
  · intro entry hentry
    rw [put_fresh, h.frame.2]
    rw [htasks] at hentry
    rcases List.mem_append.mp hentry with hrest | hnew
    · exact hm.below entry (List.mem_of_mem_filter hrest)
    · obtain ⟨t, -, rfl⟩ := List.mem_map.mp hnew
      exact hfresh
  · rw [put_slots]
    exact h.reslots.distinct hm.distinct
  · have hpoints := h.points hm.distinct (hm.reserved.trans hold.points)
    have hafter := (put_stands m₁ task next).points
    rw [hothers] at hafter
    rw [put_slots]
    exact hpoints.trans hafter.symm

end Step

theorem sound_empty (files : σ) : Sound (Manager.empty files) where
  ids := List.nodup_nil
  below := by simp [empty]
  distinct := List.nodup_nil
  reserved := List.Perm.refl _
  once := List.nodup_nil
  exist := by simp [Manager.held, empty, Slots.sessions]
  closed := by simp [empty]
  placed := by simp [empty]
  activating := by simp [empty]

/-- A change to sessions only. -/
theorem Sound.evolve (hm : Sound m) {now : Nat} {sessions : List Live}
    (hevolves : Evolves m.sessions sessions) (hlength : sessions.length = m.sessions.length) :
    Sound { m with now := now, sessions := sessions } := by
  have hexchange : Exchange m.sessions sessions m.held m.held := .kept hlength (List.Perm.refl _)
  refine ⟨hm.ids, hm.below, hm.distinct, hm.reserved, hm.once, hexchange.lt hm.exist,
    hexchange.closed hevolves hm.closed, ?_, ?_⟩
  · intro p i l hp hl
    obtain ⟨l₀, hl₀⟩ := hm.exists_session (mem_held_of_slot hp)
    obtain ⟨l₁, hl₁, hsame, -⟩ := hevolves i l₀ hl₀
    cases hl₁.symm.trans hl
    rw [hsame]
    exact hm.placed p i l₀ hp hl₀
  · intro task d i purpose l htask hl
    obtain ⟨l₀, hl₀⟩ := hm.exists_session (mem_held_of_task htask List.mem_cons_self)
    obtain ⟨l₁, hl₁, hsame, -⟩ := hevolves i l₀ hl₀
    cases hl₁.symm.trans hl
    rw [hsame]
    exact hm.activating task d i purpose l₀ htask hl₀

/-- A number that was not used is used from now on. -/
theorem Sound.begun (hm : Sound m) (hfresh : m.fresh ≤ task) :
    Sound { m with fresh := task + 1 } where
  ids := hm.ids
  below := fun entry hentry =>
    Nat.lt_succ_of_lt (Nat.lt_of_lt_of_le (hm.below entry hentry) hfresh)
  distinct := hm.distinct
  reserved := hm.reserved
  once := hm.once
  exist := hm.exist
  closed := hm.closed
  placed := hm.placed
  activating := hm.activating

/-- Whatever happens to a manager, it stays sound. -/
theorem Sound.effect (hm : Sound m) (h : Effect fs s m e m') : Sound m' := by
  cases h with
  | begun hfresh hturn =>
    exact (hm.begun hfresh).turn hturn (hm.stands_of_fresh hfresh) (Nat.lt_succ_self _)
  | resumed hold hturn =>
    exact hm.turn hturn (hm.stands_of_task? hold) (hm.below _ (mem_of_task? hold))
  | session hfree hl hk => exact hm.evolve (evolves_set hl hk) (by simp)
  | elapsed duration =>
    exact hm.evolve (evolves_map fun l => ⟨rfl, id⟩) (by simp)

theorem run_sound {files : σ} {events : List ManagerEvent}
    (h : (empty files).run fs s events = some m) : Sound m :=
  Run.foldlM_keeps (fun _ _ _ hm h => hm.effect (step_effect h)) (sound_empty files) h

end Manager

end FsGateway.Gateway
