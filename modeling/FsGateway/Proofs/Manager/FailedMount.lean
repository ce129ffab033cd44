import FsGateway.Mount.Files
import FsGateway.Proofs.Manager.Slots
import FsGateway.Proofs.Manager.Turn
import FsGateway.Proofs.Run

/-!
# What a failed mount leaves

A mount that is refused, or that the mounter fails to make, leaves the manager as it was. Once its
session is listed nothing is undone: where the list cannot be saved, the mount has failed for its
caller and stands for everyone else.

* `Manager.Alone`: how far a mount is that no other operation disturbs.
* `failed_mount_leaves_trace_iff`: which failures leave a trace, and which trace.
* `not_failedMountLeavesNoTrace`: not every failed mount leaves the manager as it was.
-/

namespace FsGateway.Gateway

open Mount (Path Descriptor Fault TableFault FileSystem Table Files IoFault)

/-- Whether an operation begins with an event. -/
def ManagerEvent.begins : ManagerEvent → Bool
  | .mount .. | .unmount .. | .restore _ | .shutDownAll _ => true
  | _ => false

namespace Manager

variable {σ : Type} {fs : FileSystem σ} {s : Setup} {m m' m₁ m₂ : Manager σ} {task : TaskId}
  {d : Descriptor} {e : ManagerEvent} {events : List ManagerEvent} {next : Next}

theorem Turn.begins (h : Turn fs s m task e none m₁ next) : e.begins = true := by
  cases h with
  | refused hstarts hbars =>
    cases hstarts
    rfl
  | reserved hstarts hvalid hfree =>
    cases hstarts
    rfl
  | _ => rfl

/-! ## A mount on its own -/

/-- Slots, mounts and files are as they were. -/
structure Untouched (m m' : Manager σ) : Prop where
  slots : m'.slots = m.slots
  mounts : m'.mounts = m.mounts
  files : m'.files = m.files

/-- The mount point of a descriptor is taken, and nothing else has changed. -/
structure Reserving (m : Manager σ) (d : Descriptor) (m' : Manager σ) : Prop where
  free : m.slots.find? d.point = none
  slots : m'.slots = m.slots.insert d.point .pending
  mounts : m'.mounts = m.mounts
  files : m'.files = m.files
  results : m'.results = m.results

/-- How far a mount is that no other operation disturbs, as long as its session is not listed. -/
inductive Alone (m : Manager σ) (task : TaskId) (d : Descriptor) (m' : Manager σ) : Prop
  | mounting {target : Url} : m'.tasks = [(task, .mounting d target .single)] →
      Reserving m d m' → Alone m task d m'
  | activating {i : SessionId} : m'.tasks = [(task, .activating d i .single)] →
      Reserving m d m' → Alone m task d m'
  | failed (fault : Fault) : m'.tasks = [] → Untouched m m' →
      m'.results = m.results ++ [(task, .error fault)] → Alone m task d m'

/-- A descriptor was listed with a session, and the list was saved or could not be saved. -/
structure Listed (fs : FileSystem σ) (s : Setup) (m : Manager σ) (task : TaskId) (d : Descriptor)
    (m' : Manager σ) : Prop where
  tasks : m'.tasks = []
  slots : ∃ i, m'.slots = m.slots.insert d.point (.active i)
  mounts : m'.mounts = m.mounts ++ [d]
  saved : ∃ r, m'.results = m.results ++ [(task, r)] ∧
    ∀ fault, r = .error fault → ∃ t f, s.table = some t ∧ fault = .table f ∧
      t.save fs (m.mounts ++ [d]) m.files = (.error f, m'.files)

/-! ## Steps -/

/-- What the events of connections and time leave alone. -/
structure Apart (m m' : Manager σ) : Prop where
  tasks : m'.tasks = m.tasks
  slots : m'.slots = m.slots
  mounts : m'.mounts = m.mounts
  files : m'.files = m.files
  results : m'.results = m.results

theorem Reserving.apart (h : Reserving m d m₁) (hsame : Apart m₁ m₂) : Reserving m d m₂ where
  free := h.free
  slots := hsame.slots.trans h.slots
  mounts := hsame.mounts.trans h.mounts
  files := hsame.files.trans h.files
  results := hsame.results.trans h.results

theorem Alone.apart (h : Alone m task d m₁) (hsame : Apart m₁ m₂) : Alone m task d m₂ := by
  cases h with
  | mounting htasks hres => exact .mounting (hsame.tasks.trans htasks) (hres.apart hsame)
  | activating htasks hres => exact .activating (hsame.tasks.trans htasks) (hres.apart hsame)
  | failed fault htasks huntouched hresults =>
    exact .failed fault (hsame.tasks.trans htasks) ⟨hsame.slots.trans huntouched.slots,
      hsame.mounts.trans huntouched.mounts, hsame.files.trans huntouched.files⟩
      (hsame.results.trans hresults)

theorem Listed.apart (h : Listed fs s m task d m₁) (hsame : Apart m₁ m₂) :
    Listed fs s m task d m₂ := by
  obtain ⟨htasks, ⟨i, hslots⟩, hmounts, r, hresults, hfault⟩ := h
  refine ⟨hsame.tasks.trans htasks, ⟨i, hsame.slots.trans hslots⟩,
    hsame.mounts.trans hmounts, r, hsame.results.trans hresults, ?_⟩
  rw [hsame.files]
  exact hfault

/-- Where no operation begins, one that waits goes on, or none is concerned. -/
theorem step_cases (h : m₁.step fs s e = some m₂) (he : e.begins = false) :
    (Apart m₁ m₂ ∧ ∀ task, e ≠ .activate task) ∨
    ∃ task old m₀ next, m₁.task? task = some old ∧ Turn fs s m₁ task e (some old) m₀ next ∧
      m₂ = m₀.put task next := by
  cases step_effect h with
  | begun hfresh hturn =>
    rw [hturn.begins] at he
    cases he
  | resumed hold hturn => exact Or.inr ⟨_, _, _, _, hold, hturn, rfl⟩
  | session hfree hl hk => exact Or.inl ⟨⟨rfl, rfl, rfl, rfl, rfl⟩, by simp⟩
  | elapsed duration => exact Or.inl ⟨⟨rfl, rfl, rfl, rfl, rfl⟩, by simp⟩

/-- The only operation. -/
theorem task?_of_tasks {t old : Task} {task' : TaskId} (htasks : m.tasks = [(task, t)])
    (h : m.task? task' = some old) : task' = task ∧ old = t := by
  rw [task?, htasks] at h
  obtain ⟨before, after, hsplit, -⟩ := List.lookup_eq_some_iff.mp h
  cases before with
  | nil =>
    cases hsplit
    exact ⟨rfl, rfl⟩
  | cons entry before =>
    have hlength := congrArg List.length hsplit
    simp at hlength

theorem not_task?_of_tasks {old : Task} (htasks : m.tasks = []) : m.task? task ≠ some old := by
  simp [task?, htasks]

theorem others_of_tasks {t : Task} (htasks : m.tasks = [(task, t)]) : m.others task = [] := by
  simp [others, htasks]

/-- The session of a mount is listed, and the list is saved or could not be saved. -/
theorem Reserving.listed {i : SessionId} {t : Task} (hres : Reserving m d m₁)
    (htasks : m₁.tasks = [(task, t)]) : Listed fs s m task d
      (((m₁.enlist d i).saveMounts fs s).2.complete task
        (((m₁.enlist d i).saveMounts fs s).1.map fun _ => .finished)) := by
  have hmounts : (m₁.enlist d i).mounts = m.mounts ++ [d] := by rw [enlist, hres.mounts]
  have hfiles : (m₁.enlist d i).files = m.files := hres.files
  refine ⟨?_, ⟨i, ?_⟩, ?_, ((m₁.enlist d i).saveMounts fs s).1.map fun _ => .finished, ?_, ?_⟩
  · rw [complete, saveMounts_tasks]
    exact others_of_tasks htasks
  · rw [complete, saveMounts_slots, enlist, hres.slots]
    exact Slots.insert_insert hres.free
  · rw [complete, saveMounts_mounts, hmounts]
  · rw [complete, saveMounts_results, ← hres.results]
    rfl
  · intro fault hfault
    have hsave : ((m₁.enlist d i).saveMounts fs s).1 = .error fault := by
      cases hr : ((m₁.enlist d i).saveMounts fs s).1 with
      | ok u =>
        rw [hr] at hfault
        cases hfault
      | error f =>
        rw [hr] at hfault
        cases hfault
        rfl
    rw [← hmounts, ← hfiles]
    exact saveMounts_eq_error hsave

theorem Alone.step (h : Alone m task d m₁) (hstep : m₁.step fs s e = some m₂)
    (he : e.begins = false) : Alone m task d m₂ ∧ e ≠ .activate task ∨
      Listed fs s m task d m₂ ∧ e = .activate task := by
  rcases step_cases hstep he with ⟨hsame, hne⟩ | ⟨task', old, m₀, next, hold, hturn, rfl⟩
  · exact Or.inl ⟨h.apart hsame, hne task⟩
  · cases h with
    | mounting htasks hres =>
      obtain ⟨rfl, rfl⟩ := task?_of_tasks htasks hold
      cases hturn with
      | attached =>
        refine Or.inl ⟨.activating (i := m₁.sessions.length) ?_
          ⟨hres.free, hres.slots, hres.mounts, hres.files, hres.results⟩, by simp⟩
        rw [put_tasks]
        exact congrArg (· ++ [_]) (others_of_tasks htasks)
      | @released d target purpose fault =>
        refine Or.inl ⟨.failed fault (others_of_tasks htasks) ⟨?_, hres.mounts, hres.files⟩ ?_,
          by simp⟩
        · rw [put_slots, hres.slots]
          exact Slots.erase_insert hres.free
        · exact congrArg (· ++ [_]) hres.results
      | refused hstarts => cases hstarts
      | reserved hstarts => cases hstarts
    | activating htasks hres =>
      obtain ⟨rfl, rfl⟩ := task?_of_tasks htasks hold
      cases hturn with
      | listed => exact Or.inr ⟨hres.listed htasks, rfl⟩
      | refused hstarts => cases hstarts
      | reserved hstarts => cases hstarts
    | failed fault htasks huntouched hresults => exact absurd hold (not_task?_of_tasks htasks)

theorem Listed.step (h : Listed fs s m task d m₁) (hstep : m₁.step fs s e = some m₂)
    (he : e.begins = false) : Listed fs s m task d m₂ := by
  rcases step_cases hstep he with ⟨hsame, -⟩ | ⟨task', old, m₀, next, hold, hturn, rfl⟩
  · exact h.apart hsame
  · exact absurd hold (not_task?_of_tasks h.tasks)

/-! ## Runs -/

/-- How far a mount is after it has begun. -/
theorem alone_of_mount (hidle : m.tasks = []) (h : m.step fs s (.mount task d) = some m₁) :
    Alone m task d m₁ := by
  have hothers : m.others task = [] := by rw [others, hidle]; rfl
  obtain ⟨hfresh, h⟩ := begin_bind_eq_some h
  cases h
  unfold beginMount
  split
  · exact .failed _ hothers ⟨rfl, rfl, rfl⟩ rfl
  · rename_i target hvalid
    split
    · exact .failed _ hothers ⟨rfl, rfl, rfl⟩ rfl
    · rename_i hfree
      have htasks : m.others task ++ [(task, .mounting d target .single)] =
          [(task, .mounting d target .single)] := by rw [hothers, List.nil_append]
      exact .mounting htasks ⟨by simpa using hfree, rfl, rfl, rfl, rfl⟩

/-- How far a mount is that no other operation disturbs: its session is listed when it is activated,
and not before. -/
theorem alone_or_listed (hidle : m.tasks = []) (halone : ∀ e ∈ events, e.begins = false)
    (h : m.run fs s (.mount task d :: events) = some m') :
    Alone m task d m' ∧ .activate task ∉ events ∨
      Listed fs s m task d m' ∧ .activate task ∈ events := by
  obtain ⟨m₁, hbegin, hrun⟩ := Option.bind_eq_some_iff.mp h
  have hstart := alone_of_mount hidle hbegin
  refine Run.foldlM_induction (P := fun done m₂ => (∀ e ∈ done, e.begins = false) →
    Alone m task d m₂ ∧ .activate task ∉ done ∨ Listed fs s m task d m₂ ∧ .activate task ∈ done)
    ?_ ?_ hrun halone
  · exact fun _ => Or.inl ⟨hstart, List.not_mem_nil⟩
  · intro done m₂ e m₃ _ ih hstep hdone
    have he : e.begins = false := hdone e (List.mem_append_right _ List.mem_cons_self)
    rcases ih fun e he => hdone e (List.mem_append_left _ he) with ⟨hwait, hnot⟩ | ⟨hlisted, hmem⟩
    · rcases hwait.step hstep he with ⟨hwait', hne⟩ | ⟨hlisted, heq⟩
      · refine Or.inl ⟨hwait', fun hmem => ?_⟩
        rcases List.mem_append.mp hmem with hmem | hmem
        · exact hnot hmem
        · exact hne (List.mem_singleton.mp hmem).symm
      · exact Or.inr ⟨hlisted, List.mem_append_right _ (List.mem_singleton.mpr heq.symm)⟩
    · exact Or.inr ⟨hlisted.step hstep he, List.mem_append_left _ hmem⟩

/-- The slots, the list of mounts and the list that the table loads are the same. -/
structure SameState (fs : FileSystem σ) (s : Setup) (m m' : Manager σ) : Prop where
  slots : m'.slots = m.slots
  mounts : m'.mounts = m.mounts
  loaded : ∀ t, s.table = some t → t.load fs m'.files = t.load fs m.files

/-- A descriptor cannot be mounted where its mount point is taken. -/
theorem mount_of_taken (fs : FileSystem σ) (s : Setup) {target : Url} {slot : Slot}
    (hslot : m.slots.find? d.point = some slot) (hvalid : d.validate = .ok target)
    (hfresh : m.fresh ≤ task) : ∃ m', m.step fs s (.mount task d) = some m' ∧
      m'.results = m.results ++ [(task, .error (.alreadyMounted d.point))] := by
  refine ⟨({ m with fresh := task + 1 } : Manager σ).beginMount task d .single, ?_, ?_⟩
  · simp only [step, begin, hfresh, if_true, Option.bind_some, bind]
  · simp [beginMount, hvalid, hslot, complete]

/-- A mount that has failed leaves no trace, unless it has failed after its session was listed. Then
the list could not be saved, the session stays listed and at its mount point, and a later mount of the
mount point is refused. -/
theorem failed_mount_leaves_trace_iff {fault : Fault} (hidle : m.tasks = [])
    (halone : ∀ e ∈ events, e.begins = false)
    (hrun : m.run fs s (.mount task d :: events) = some m')
    (hfailed : m'.results = m.results ++ [(task, .error fault)]) :
    (SameState fs s m m' ↔ .activate task ∉ events) ∧
    (.activate task ∈ events →
      (∃ t f, s.table = some t ∧ fault = .table f ∧
        t.save fs (m.mounts ++ [d]) m.files = (.error f, m'.files)) ∧
      m'.mounts = m.mounts ++ [d] ∧ (∃ i, m'.slots = m.slots.insert d.point (.active i)) ∧
      ∀ task' d' target, d'.validate = .ok target → d'.point.same d.point = true →
        m'.fresh ≤ task' → ∃ m₂, m'.step fs s (.mount task' d') = some m₂ ∧
          m₂.results = m'.results ++ [(task', .error (.alreadyMounted d'.point))]) := by
  rcases alone_or_listed hidle halone hrun with ⟨hwait, hnot⟩ | ⟨hlisted, hmem⟩
  · refine ⟨iff_of_true ?_ hnot, fun hmem => absurd hmem hnot⟩
    have hno : m'.results ≠ m.results := by
      intro hsame
      have hlength := congrArg List.length (hsame.symm.trans hfailed)
      simp at hlength
    cases hwait with
    | mounting htasks hres => exact absurd hres.results hno
    | activating htasks hres => exact absurd hres.results hno
    | failed fault htasks huntouched hresults =>
      refine ⟨huntouched.slots, huntouched.mounts, fun t _ => ?_⟩
      rw [huntouched.files]
  · obtain ⟨htasks, ⟨i, hslots⟩, hmounts, r, hresults, hfault⟩ := hlisted
    refine ⟨iff_of_false (fun hsame => ?_) (not_not.mpr hmem),
      fun _ => ⟨?_, hmounts, ⟨i, hslots⟩, ?_⟩⟩
    · have hlength := congrArg List.length (hmounts.symm.trans hsame.mounts)
      simp at hlength
    · refine hfault fault ?_
      have hlast := List.append_cancel_left (hresults.symm.trans hfailed)
      cases hlast
      rfl
    · intro task' d' target hvalid hpoint hfresh
      have hslot : m'.slots.find? d'.point = some (.active i) := by
        rw [hslots]
        exact Slots.find?_insert hpoint
      exact mount_of_taken fs s hslot hvalid hfresh

/-- A manager whose table is in a directory that is missing. -/
def lostTable : Setup where
  client := ⟨.raw, none⟩
  requestTimeout := none
  drainTimeout := none
  table := some ⟨⟨"missing/mounts.json"⟩, ⟨"missing/mounts.bak"⟩⟩

def unsaved : Descriptor := { point := ⟨"/a"⟩, target := "http://h" }

theorem unsaved_run : ∃ (m : Manager Files) (f : TableFault),
    (empty ⟨[]⟩).run Files.system lostTable [.mount 0 unsaved, .returned 0 (.ok ()), .activate 0] =
      some m ∧ m.results = [(0, .error (.table f))] ∧ m.mounts = [unsaved] ∧ m.fresh = 1 ∧
      ∃ target, unsaved.validate = .ok target :=
  ⟨_, _, rfl, rfl, rfl, rfl, _, rfl⟩

theorem failed_mount_leaves_trace_unsaved : ∃ (m m₂ : Manager Files) (f : TableFault),
    (empty ⟨[]⟩).run Files.system lostTable [.mount 0 unsaved, .returned 0 (.ok ()), .activate 0] =
      some m ∧ m.results = [(0, .error (.table f))] ∧ m.mounts = [unsaved] ∧
      m.step Files.system lostTable (.mount 1 unsaved) = some m₂ ∧
      m₂.results = m.results ++ [(1, .error (.alreadyMounted unsaved.point))] := by
  obtain ⟨m, f, hrun, hresults, -, hfresh, target, hvalid⟩ := unsaved_run
  have halone : ∀ e ∈ [ManagerEvent.returned 0 (.ok ()), .activate 0], e.begins = false := by
    simp [ManagerEvent.begins]
  obtain ⟨-, hmounts, -, hrefused⟩ :=
    (failed_mount_leaves_trace_iff rfl halone hrun hresults).2 (by simp)
  obtain ⟨m₂, hmount, hagain⟩ :=
    hrefused 1 unsaved target hvalid (Path.same_refl _) (Nat.le_of_eq hfresh)
  exact ⟨m, m₂, f, hrun, hresults, hmounts, hmount, hagain⟩

/-- A mount that has failed leaves no trace. -/
def FailedMountLeavesNoTrace (fs : FileSystem σ) (s : Setup) : Prop :=
  ∀ files before m task d events m' fault, (empty files).run fs s before = some m → m.tasks = [] →
    (∀ e ∈ events, e.begins = false) → m.run fs s (.mount task d :: events) = some m' →
    m'.results = m.results ++ [(task, .error fault)] → SameState fs s m m'

/-- Not every mount that has failed leaves the manager as it was. -/
theorem not_failedMountLeavesNoTrace : ¬ FailedMountLeavesNoTrace Files.system lostTable := by
  intro hclean
  obtain ⟨m, f, hrun, hresults, hmounts, -⟩ := unsaved_run
  have hsame := hclean ⟨[]⟩ [] (empty ⟨[]⟩) 0 unsaved [.returned 0 (.ok ()), .activate 0] m
    (.table f) rfl rfl (by simp [ManagerEvent.begins]) hrun hresults
  cases hmounts.symm.trans hsame.mounts

end Manager

end FsGateway.Gateway
