import FsGateway.Mount.Files
import FsGateway.Proofs.Manager.Ownership

/-!
# Who may be at a mount point

A mount point is taken from the moment at which it is about to be mounted until its session is taken
out to be stopped. It is free again before the session has stopped, so a mount can overtake the end of
an earlier session, but no session that nobody is stopping.

* `Manager.FullyStopped`: a session is detached and its connection has closed.
* `mount_overtakes_only_stopping`: which sessions may be left at a mount point that is mounted.
* `not_heldUntilStopped`: a mount point is not held until its session has fully stopped.
-/

namespace FsGateway.Gateway

open Mount (Path Descriptor Fault FileSystem Table Files)

/-- The sessions that an unmount or a shutdown still has to stop. -/
def Task.stops : Task → List SessionId
  | .detaching i sequel | .joining i _ sequel => i :: sequel.sessions
  | .stopping rest => rest
  | _ => []

/-- An operation stops the sessions that it holds, unless it mounts one. -/
theorem Task.mem_sessions {t : Task} {i : SessionId} (h : i ∈ t.sessions) :
    i ∈ t.stops ∨ ∃ d purpose, t = .activating d i purpose := by
  cases t with
  | activating d j purpose =>
    cases List.mem_singleton.mp h
    exact Or.inr ⟨d, purpose, rfl⟩
  | detaching j sequel => exact Or.inl h
  | joining j result sequel => exact Or.inl h
  | stopping rest => exact Or.inl h
  | clearing d rest count => cases h
  | mounting d target purpose => cases h
  | saving result => cases h

namespace Manager

variable {σ : Type} {fs : FileSystem σ} {s : Setup} {m m' : Manager σ} {files : σ}
  {events : List ManagerEvent} {e : ManagerEvent} {task : TaskId} {d : Descriptor} {i j : SessionId}
  {p : Path}

/-- A session was attached to a mount point. -/
def IsAt (m : Manager σ) (i : SessionId) (p : Path) : Prop :=
  ∃ l, m.sessions[i]? = some l ∧ l.descriptor.point.same p = true

/-- An unmount or a shutdown in progress has to stop a session. -/
def IsStopping (m : Manager σ) (i : SessionId) : Prop :=
  ∃ entry ∈ m.tasks, i ∈ entry.2.stops

/-- No call to detach a session is out, and its connection has closed. -/
def FullyStopped (m : Manager σ) (i : SessionId) : Prop :=
  (∀ task sequel, (task, .detaching i sequel) ∉ m.tasks) ∧
    ∃ l, m.sessions[i]? = some l ∧ l.connection.phase = .closed

/-- The mounter is called for a descriptor. -/
def CallsMount (m m' : Manager σ) (d : Descriptor) : Prop :=
  ∃ task, m'.calls = m.calls ++ [(task, .mount d)]

/-! ## Taken mount points -/

/-- What takes a mount point for a session: its slot, or that of the operation that mounts it. -/
inductive Takes (m : Manager σ) (i : SessionId) : Path × Slot → Prop
  | active {p : Path} : (p, .active i) ∈ m.slots → Takes m i (p, .active i)
  | pending {task : TaskId} {d : Descriptor} {purpose : Purpose} :
      (task, .activating d i purpose) ∈ m.tasks → (d.point, .pending) ∈ m.slots →
      Takes m i (d.point, .pending)

theorem Takes.mem {e : Path × Slot} (h : Takes m i e) : e ∈ m.slots := by
  cases h with
  | active hslot => exact hslot
  | pending htask hslot => exact hslot

/-- The mount point of a session is taken, unless the session has stopped or is being stopped. -/
theorem Sound.takes (hm : Sound m) (hat : m.IsAt i p) (hstopped : ¬ m.FullyStopped i)
    (hstopping : ¬ m.IsStopping i) : ∃ e, m.Takes i e ∧ e.1.key = p.key := by
  obtain ⟨l, hl, hsame⟩ := hat
  have hkey := Path.same_iff_key.mp hsame
  -- nobody detaches the session, so its connection has not closed
  have hnone : ∀ task sequel, (task, .detaching i sequel) ∉ m.tasks :=
    fun task sequel hmem => hstopping ⟨_, hmem, List.mem_cons_self⟩
  have hheld : i ∈ m.held := by
    rcases hm.closed i l hl with hheld | hclosed
    · exact hheld
    · exact absurd ⟨hnone, l, hl, hclosed⟩ hstopped
  rcases List.mem_append.mp hheld with hslots | htasks
  · obtain ⟨q, hq⟩ := Slots.mem_sessions_iff.mp hslots
    exact ⟨_, .active hq, by rw [← hm.placed q i l hq hl, hkey]⟩
  · obtain ⟨⟨task, t⟩, hmem, hi⟩ := List.mem_flatMap.mp htasks
    rcases Task.mem_sessions hi with hstops | ⟨d, purpose, rfl⟩
    · exact absurd ⟨_, hmem, hstops⟩ hstopping
    · have hreserved : d.point ∈ m.slots.reserved :=
        hm.reserved.mem_iff.mpr (List.mem_filterMap.mpr ⟨_, hmem, rfl⟩)
      refine ⟨_, .pending hmem (Slots.mem_reserved_iff.mp hreserved), ?_⟩
      rw [← hm.activating task d i purpose l hmem hl, hkey]

/-- A slot takes a mount point for one session. -/
theorem Sound.eq_of_takes (hm : Sound m) {e : Path × Slot} (hi : m.Takes i e) (hj : m.Takes j e) :
    i = j := by
  cases hi with
  | active hslot =>
    cases hj with
    | active hslot' => rfl
  | @pending task d purpose htask hslot =>
    generalize hp : d.point = p at hj
    cases hj with
    | @pending task' d' purpose' htask' hslot' =>
      have heq := hm.eq_of_point htask htask' rfl rfl (by rw [hp])
      cases heq
      rfl

/-! ## Calls of the mounter -/

/-- A turn calls the mounter at most once, and to mount only where the mount point is free. -/
theorem Turn.calls {old : Option Task} {m₁ : Manager σ} {next : Next}
    (h : Turn fs s m task e old m₁ next) : m₁.calls = m.calls ∨
      (∃ p, m₁.calls = m.calls ++ [(task, .unmount p)]) ∨
      ∃ d, m₁.calls = m.calls ++ [(task, .mount d)] ∧ m.slots.find? d.point = none := by
  cases h with
  | reserved hstarts hvalid hfree => exact Or.inr (Or.inr ⟨_, rfl, hfree⟩)
  | listed => exact Or.inl saveMounts_calls
  | relisted hrest =>
    cases hrest with
    | done count => exact Or.inl rfl
    | clear d rest count => exact Or.inr (Or.inl ⟨_, rfl⟩)
  | loaded ht hload hrest =>
    cases hrest with
    | done count => exact Or.inl rfl
    | clear d rest count => exact Or.inr (Or.inl ⟨_, rfl⟩)
  | takenOut hslot hl => exact Or.inr (Or.inl ⟨_, rfl⟩)
  | picked hi hl => exact Or.inr (Or.inl ⟨_, rfl⟩)
  | saved => exact Or.inl saveMounts_calls
  | _ => exact Or.inl rfl

theorem Turn.free_of_callsMount {old : Option Task} {m₁ : Manager σ} {next : Next}
    (h : Turn fs s m task e old m₁ next) (hcall : CallsMount m (m₁.put task next) d) :
    m.slots.find? d.point = none := by
  obtain ⟨task', hcall⟩ := hcall
  rw [put_calls] at hcall
  rcases h.calls with hsame | ⟨p, hunmount⟩ | ⟨d', hmount, hfree⟩
  · have hlength := congrArg List.length (hsame.symm.trans hcall)
    simp at hlength
  · have hlast := List.append_cancel_left (hunmount.symm.trans hcall)
    cases hlast
  · have hlast := List.append_cancel_left (hmount.symm.trans hcall)
    cases hlast
    exact hfree

/-- The mounter is called to mount only where the mount point is free. -/
theorem Effect.free_of_callsMount (h : Effect fs s m e m') (hcall : CallsMount m m' d) :
    m.slots.find? d.point = none := by
  cases h with
  | begun hfresh hturn => exact hturn.free_of_callsMount hcall
  | resumed hold hturn => exact hturn.free_of_callsMount hcall
  | session hfree hl hk =>
    obtain ⟨task', hcall⟩ := hcall
    have hlength := congrArg List.length hcall
    simp at hlength
  | elapsed duration =>
    obtain ⟨task', hcall⟩ := hcall
    have hlength := congrArg List.length hcall
    simp at hlength

/-! ## The end of a session -/

/-- A free mount point is taken at once when a descriptor is mounted that can be mounted. -/
theorem mount_of_free (fs : FileSystem σ) (s : Setup) {target : Url}
    (hfree : m.slots.find? d.point = none) (hvalid : d.validate = .ok target)
    (hfresh : m.fresh ≤ task) :
    ∃ m', m.step fs s (.mount task d) = some m' ∧ CallsMount m m' d := by
  refine ⟨({ m with fresh := task + 1 } : Manager σ).beginMount task d .single, ?_, task, ?_⟩
  · simp only [step, begin, hfresh, if_true, Option.bind_some, bind]
  · simp [beginMount, hvalid, hfree, callMounter, await]

/-- The mount point of a session that is taken out is free while the session is detached. -/
theorem unmount_frees (fs : FileSystem σ) (s : Setup) (hm : Sound m)
    (hslot : m.slots.find? p = some (.active i)) (hfresh : m.fresh ≤ task) :
    ∃ m', m.step fs s (.unmount task p) = some m' ∧ m'.slots.find? p = none ∧ m'.IsAt i p ∧
      ¬ m'.FullyStopped i ∧ m'.fresh = task + 1 := by
  obtain ⟨q, hmem, hq⟩ := Slots.mem_of_find? hslot
  obtain ⟨l, hl⟩ := hm.exists_session (mem_held_of_slot hmem)
  have hpoint := hm.placed q i l hmem hl
  refine ⟨({ m with
      fresh := task + 1
      slots := m.slots.erase p
      mounts := m.mounts.filter fun d => !d.point.same p } : Manager σ).callMounter task
        (.unmount l.descriptor.point) |>.await task (.detaching i .save), ?_, ?_, ?_, ?_, rfl⟩
  · simp only [step, begin, hfresh, if_true, Option.bind_some, bind, beginUnmount, hslot, beginStop,
      hl, Option.map_some]
  · exact Slots.find?_erase_self rfl
  · exact ⟨l, hl, Path.same_iff_key.mpr (by rw [hpoint, hq])⟩
  · intro hstopped
    exact hstopped.1 task .save (List.mem_append_right _ List.mem_cons_self)

/-- Where a session is at a mount point, only its slot names the mount point. -/
theorem Sound.find?_pending (hm : Sound m) (hslot : m.slots.find? p = some (.active i)) :
    m.slots.pending.find? p = none := by
  rw [Slots.find?_pending hm.distinct, hslot]
  rfl

/-- The mount points of all sessions are free while a shutdown stops them one after another. -/
theorem shutDown_frees (fs : FileSystem σ) (s : Setup) (hm : Sound m)
    (hslot : m.slots.find? p = some (.active i)) (hfresh : m.fresh ≤ task) :
    ∃ m₁ m₂, m.step fs s (.shutDownAll task) = some m₁ ∧ m₁.step fs s (.stop task i) = some m₂ ∧
      m₂.slots.find? p = none ∧ m₂.IsAt i p ∧ ¬ m₂.FullyStopped i ∧ m₂.fresh = task + 1 := by
  obtain ⟨q, hmem, hq⟩ := Slots.mem_of_find? hslot
  obtain ⟨l, hl⟩ := hm.exists_session (mem_held_of_slot hmem)
  have hpoint := hm.placed q i l hmem hl
  have hi : i ∈ m.slots.sessions := Slots.mem_sessions_iff.mpr ⟨q, hmem⟩
  have hsome : m.slots.sessions.isEmpty = false := by
    rw [List.isEmpty_eq_false_iff]
    exact List.ne_nil_of_mem hi
  obtain ⟨m₁, hshut, htask, hslots, hsessions, hnext⟩ : ∃ m₁,
      m.step fs s (.shutDownAll task) = some m₁ ∧
        m₁.task? task = some (.stopping m.slots.sessions) ∧ m₁.slots = m.slots.pending ∧
        m₁.sessions = m.sessions ∧ m₁.fresh = task + 1 := by
    refine ⟨({ m with
        fresh := task + 1
        slots := m.slots.pending } : Manager σ).await task (.stopping m.slots.sessions), ?_,
      task?_await _ _ _, rfl, rfl, rfl⟩
    simp only [step, begin, hfresh, if_true, Option.bind_some, bind, continueStop, hsome]
    rfl
  rw [← hsessions] at hl
  refine ⟨m₁, (m₁.callMounter task (.unmount l.descriptor.point)).await task
    (.detaching i (.stopMore (m.slots.sessions.erase i))), hshut, ?_, ?_, ?_, ?_, hnext⟩
  · simp only [step, htask, hi, if_true, beginStop, hl, Option.map_some]
  · have hfree := hm.find?_pending hslot
    rw [← hslots] at hfree
    exact hfree
  · exact ⟨l, hl, Path.same_iff_key.mpr (by rw [hpoint, hq])⟩
  · intro hstopped
    exact hstopped.1 task _ (List.mem_append_right _ List.mem_cons_self)

/-- When the mounter is called to mount, every earlier session of the mount point has fully stopped or
is still being stopped, and of the sessions that are neither, a mount point has one at most. Nothing
waits for those that are being stopped: after any unmount of a session, and after any shutdown, its
mount point can be mounted again before the session is detached. -/
theorem mount_overtakes_only_stopping (h : (empty files).run fs s events = some m) :
    (∀ e m' d i, m.step fs s e = some m' → CallsMount m m' d → m.IsAt i d.point →
      m.FullyStopped i ∨ m.IsStopping i) ∧
    (∀ p i j, m.IsAt i p → m.IsAt j p → ¬ m.FullyStopped i → ¬ m.IsStopping i →
      ¬ m.FullyStopped j → ¬ m.IsStopping j → i = j) ∧
    (∀ task d target i, m.slots.find? d.point = some (.active i) → d.validate = .ok target →
      m.fresh ≤ task → ∀ out, (out = [.unmount task d.point] ∨
        out = [.shutDownAll task, .stop task i]) → ∃ m₁ m₂, m.run fs s out = some m₁ ∧
        m₁.step fs s (.mount (task + 1) d) = some m₂ ∧ CallsMount m₁ m₂ d ∧
        m₁.IsAt i d.point ∧ ¬ m₁.FullyStopped i) := by
  have hm := run_sound h
  refine ⟨?_, ?_, ?_⟩
  · intro e m' d i hstep hcall hat
    have hfree := (step_effect hstep).free_of_callsMount hcall
    by_contra hneither
    obtain ⟨hstopped, hstopping⟩ := not_or.mp hneither
    obtain ⟨entry, htakes, hkey⟩ := hm.takes hat hstopped hstopping
    exact Slots.find?_ne_none htakes.mem hkey hfree
  · intro p i j hi hj hi₁ hi₂ hj₁ hj₂
    obtain ⟨a, ha, hakey⟩ := hm.takes hi hi₁ hi₂
    obtain ⟨b, hb, hbkey⟩ := hm.takes hj hj₁ hj₂
    have heq := List.inj_on_of_nodup_map hm.distinct ha.mem hb.mem (hakey.trans hbkey.symm)
    subst heq
    exact hm.eq_of_takes ha hb
  · intro task d target i hslot hvalid hfresh out hout
    have hfrees : ∃ m₁, m.run fs s out = some m₁ ∧ m₁.slots.find? d.point = none ∧
        m₁.IsAt i d.point ∧ ¬ m₁.FullyStopped i ∧ m₁.fresh = task + 1 := by
      rcases hout with rfl | rfl
      · obtain ⟨m₁, hunmount, hfrees⟩ := unmount_frees fs s hm hslot hfresh
        exact ⟨m₁, by simpa [run] using hunmount, hfrees⟩
      · obtain ⟨m₀, m₁, hshut, hstop, hfrees⟩ := shutDown_frees fs s hm hslot hfresh
        exact ⟨m₁, by simpa [run, hshut] using hstop, hfrees⟩
    obtain ⟨m₁, hrun, hfree, hat, hstopped, hnext⟩ := hfrees
    obtain ⟨m₂, hmount, hcall⟩ := mount_of_free fs s hfree hvalid (Nat.le_of_eq hnext)
    exact ⟨m₁, m₂, hrun, hmount, hcall, hat, hstopped⟩

/-- A manager without a table, whose connections have no time limits. -/
def plainSetup : Setup := ⟨⟨.raw, none⟩, none, none, none⟩

def sample : Descriptor := { point := ⟨"/a"⟩, target := "http://h" }

/-- A descriptor is mounted. -/
def sampleMount : List ManagerEvent := [.mount 0 sample, .returned 0 (.ok ()), .activate 0]

theorem sampleMount_run : ∃ m : Manager Files,
    (empty ⟨[]⟩).run Files.system plainSetup sampleMount = some m ∧
      m.slots.find? sample.point = some (.active 0) ∧ m.fresh = 1 ∧
      ∃ target, sample.validate = .ok target :=
  ⟨_, rfl, rfl, rfl, _, rfl⟩

theorem mount_overtakes_sample : ∃ m m₁ m₂ : Manager Files,
    (empty ⟨[]⟩).run Files.system plainSetup sampleMount = some m ∧
      m.run Files.system plainSetup [.unmount 1 sample.point] = some m₁ ∧
      m₁.step Files.system plainSetup (.mount 2 sample) = some m₂ ∧ CallsMount m₁ m₂ sample ∧
      m₁.IsAt 0 sample.point ∧ ¬ m₁.FullyStopped 0 := by
  obtain ⟨m, hrun, hslot, hfresh, target, hvalid⟩ := sampleMount_run
  obtain ⟨m₁, m₂, hunmount, hmount, hovertakes⟩ :=
    (mount_overtakes_only_stopping hrun).2.2 1 sample target 0 hslot hvalid (Nat.le_of_eq hfresh)
      [.unmount 1 sample.point] (Or.inl rfl)
  exact ⟨m, m₁, m₂, hrun, hunmount, hmount, hovertakes⟩

/-- The mounter is called to mount only where every earlier session has fully stopped. -/
def HeldUntilStopped (fs : FileSystem σ) (s : Setup) : Prop :=
  ∀ files events m e m' d i, (empty files).run fs s events = some m → m.step fs s e = some m' →
    CallsMount m m' d → m.IsAt i d.point → m.FullyStopped i

/-- A mount point is not held until its session has fully stopped. -/
theorem not_heldUntilStopped : ¬ HeldUntilStopped Files.system plainSetup := by
  intro hheld
  obtain ⟨m, hrun, hslot, hfresh, target, hvalid⟩ := sampleMount_run
  obtain ⟨m₁, hunmount, hfree, hat, hstopped, hnext⟩ :=
    unmount_frees Files.system plainSetup (run_sound hrun) hslot (Nat.le_of_eq hfresh)
  obtain ⟨m₂, hmount, hcall⟩ :=
    mount_of_free Files.system plainSetup hfree hvalid (Nat.le_of_eq hnext)
  exact hstopped (hheld ⟨[]⟩ (sampleMount ++ [.unmount 1 sample.point]) m₁ _ m₂ sample 0
    (Run.foldlM_append_of hrun (by simpa using hunmount)) hmount hcall hat)

end Manager

end FsGateway.Gateway
