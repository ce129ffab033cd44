import FsGateway.Proofs.Manager.Reservation

/-!
# Restoring saved mounts

A manager that has just been started restores the mounts of a table one after another: it detaches
what is left at a mount point, mounts the descriptor and lists it. The mounts can be restored if all
of them are valid and no two name one mount point.

* `Stage`: how far restoring has come, by the number of events of the operation so far.
* `Stage.step`: an event of the operation leads from one stage to the next, others change nothing.
* `run_stage`: where restoring stands after any events, and `Stage.goesOn` that it does not get stuck.
-/

namespace FsGateway.Gateway

open Mount (Path Descriptor Fault FileSystem Table)

namespace Slots

variable {ds : List Descriptor} {d : Descriptor}

/-- The slots of mounts whose sessions were attached in their order. -/
def served (ds : List Descriptor) : Slots := ds.mapIdx fun i d => (d.point, .active i)

theorem served_concat (ds : List Descriptor) (d : Descriptor) :
    served (ds ++ [d]) = served ds ++ [(d.point, .active ds.length)] := List.mapIdx_concat

theorem map_served_keys (ds : List Descriptor) :
    (served ds).map (fun e => e.1.key) = ds.map (·.point.key) := by
  apply List.ext_getElem?
  intro i
  simp [served, Function.comp_def]

theorem find?_served_of_not_mem (h : d.point.key ∉ ds.map (·.point.key)) :
    (served ds).find? d.point = none := by
  rw [← map_served_keys] at h
  refine find?_eq_none_iff.mpr fun e he hkey => h ?_
  exact List.mem_map.mpr ⟨e, he, hkey⟩

theorem find?_served (h : (ds.map (·.point.key)).Nodup) {i : Nat} (hi : ds[i]? = some d) :
    (served ds).find? d.point = some (.active i) := by
  have hdistinct : (served ds).Distinct := by
    rw [Distinct, map_served_keys]
    exact h
  have hmem : (d.point, Slot.active i) ∈ served ds := by
    apply List.mem_of_getElem? (i := i)
    rw [served, List.getElem?_mapIdx, hi, Option.map_some]
  exact find?_of_mem hdistinct hmem rfl

end Slots

namespace Manager

variable {σ : Type} {fs : FileSystem σ} {s : Setup} {t : Table} {m m' : Manager σ} {files : σ}
  {events : List ManagerEvent} {e : ManagerEvent} {task : TaskId} {all : List Descriptor} {n : Nat}

/-- Mounts that can be restored: all of them are valid, and no two name one mount point. -/
structure Restorable (all : List Descriptor) : Prop where
  valid : ∀ d ∈ all, ∃ target, d.validate = .ok target
  distinct : (all.map (·.point.key)).Nodup

/-- The calls of the mounter for mounts that were restored. -/
def restoreCalls (task : TaskId) (ds : List Descriptor) : List (TaskId × MounterCall) :=
  ds.flatMap fun d => [(task, .unmount d.point), (task, .mount d)]

/-- The mounter fails to mount a descriptor. -/
def FailsMount (m : Manager σ) (e : ManagerEvent) : Prop :=
  ∃ task fault d target purpose, e = .returned task (.error fault) ∧
    m.task? task = some (.mounting d target purpose)

/-! ## Stages -/

/-- What a manager shows of an operation that restores: the mounts it has listed, those it has
attached sessions for, and the place where it waits. -/
structure Looks (m : Manager σ) (files : σ) (task : TaskId) (listed attached : List Descriptor)
    (slots : Slots) (place : Option Task) (calls : List (TaskId × MounterCall)) : Prop where
  files : m.files = files
  mounts : m.mounts = listed
  sessions : m.sessions.map (·.descriptor) = attached
  slots : m.slots = slots
  tasks : m.tasks = place.toList.map (task, ·)
  calls : m.calls = calls

/-- How far restoring has come, by the number of events of the operation. Each mount takes three of
them: what is left at its mount point is detached, a session is attached, and it is listed. -/
inductive Stage (files : σ) (task : TaskId) (all : List Descriptor) (m : Manager σ) : Nat → Prop
  | clearing {done rest : List Descriptor} {d : Descriptor} : all = done ++ d :: rest →
      m.Looks files task done done (Slots.served done) (some (.clearing d rest all.length))
        (restoreCalls task done ++ [(task, .unmount d.point)]) →
      m.results = [] → Stage files task all m (3 * done.length)
  | mounting {done rest : List Descriptor} {d : Descriptor} (target : Url) :
      all = done ++ d :: rest →
      m.Looks files task done done (Slots.served done ++ [(d.point, .pending)])
        (some (.mounting d target (.restoring rest all.length))) (restoreCalls task (done ++ [d])) →
      m.results = [] → Stage files task all m (3 * done.length + 1)
  | activating {done rest : List Descriptor} {d : Descriptor} : all = done ++ d :: rest →
      m.Looks files task done (done ++ [d]) (Slots.served done ++ [(d.point, .pending)])
        (some (.activating d done.length (.restoring rest all.length)))
        (restoreCalls task (done ++ [d])) →
      m.results = [] → Stage files task all m (3 * done.length + 2)
  | finished : m.Looks files task all all (Slots.served all) none (restoreCalls task all) →
      m.results = [(task, .ok (.restored all.length))] → Stage files task all m (3 * all.length)

theorem restoreCalls_concat (task : TaskId) (ds : List Descriptor) (d : Descriptor) :
    restoreCalls task (ds ++ [d]) =
      restoreCalls task ds ++ [(task, .unmount d.point), (task, .mount d)] := by
  simp [restoreCalls]

/-- The operation goes on with the mounts that are still to be restored, or is over. -/
theorem Stage.continue {done rest : List Descriptor} (hall : all = done ++ rest)
    (hfiles : m.files = files) (hmounts : m.mounts = done)
    (hsessions : m.sessions.map (·.descriptor) = done) (hslots : m.slots = .served done)
    (htasks : m.others task = []) (hcalls : m.calls = restoreCalls task done)
    (hresults : m.results = []) :
    Stage files task all (m.continueRestore task rest all.length) (3 * done.length) := by
  cases rest with
  | nil =>
    obtain rfl : all = done := by rw [hall, List.append_nil]
    refine .finished ⟨hfiles, hmounts, hsessions, hslots, htasks, hcalls⟩ ?_
    rw [continueRestore, complete, hresults]
    rfl
  | cons d rest =>
    refine .clearing hall ⟨hfiles, hmounts, hsessions, hslots, ?_, ?_⟩ hresults
    · show m.others task ++ [(task, .clearing d rest all.length)] = _
      rw [htasks]
      rfl
    · show m.calls ++ [(task, .unmount d.point)] = _
      rw [hcalls]

/-! ## Steps -/

theorem Looks.apart {listed attached : List Descriptor} {slots : Slots} {place : Option Task}
    {calls : List (TaskId × MounterCall)} (h : m.Looks files task listed attached slots place calls)
    (hsame : Apart m m') (hsessions : m'.sessions.map (·.descriptor) = m.sessions.map (·.descriptor))
    (hcalls : m'.calls = m.calls) : m'.Looks files task listed attached slots place calls where
  files := hsame.files.trans h.files
  mounts := hsame.mounts.trans h.mounts
  sessions := hsessions.trans h.sessions
  slots := hsame.slots.trans h.slots
  tasks := hsame.tasks.trans h.tasks
  calls := hcalls.trans h.calls

theorem Stage.apart (h : Stage files task all m n) (hsame : Apart m m')
    (hsessions : m'.sessions.map (·.descriptor) = m.sessions.map (·.descriptor))
    (hcalls : m'.calls = m.calls) : Stage files task all m' n := by
  cases h with
  | clearing hall hlooks hresults =>
    exact .clearing hall (hlooks.apart hsame hsessions hcalls) (hsame.results.trans hresults)
  | mounting target hall hlooks hresults =>
    exact .mounting target hall (hlooks.apart hsame hsessions hcalls) (hsame.results.trans hresults)
  | activating hall hlooks hresults =>
    exact .activating hall (hlooks.apart hsame hsessions hcalls) (hsame.results.trans hresults)
  | finished hlooks hresults =>
    exact .finished (hlooks.apart hsame hsessions hcalls) (hsame.results.trans hresults)

/-- The mount point of the next mount is free. -/
theorem Restorable.free {done rest : List Descriptor} {d : Descriptor} (h : Restorable all)
    (hall : all = done ++ d :: rest) : (Slots.served done).find? d.point = none := by
  have hkeys := h.distinct
  rw [hall, List.map_append, List.map_cons] at hkeys
  apply Slots.find?_served_of_not_mem
  intro hmem
  exact (List.nodup_append.mp hkeys).2.2 _ hmem _ List.mem_cons_self rfl

/-- The only operation waits where it has gone. -/
theorem put_wait_tasks (h : m.others task = []) (t : Task) :
    (m.put task (.wait t)).tasks = [(task, t)] := by
  rw [put_tasks, h]
  rfl

theorem Restores.put_eq {rest : List Descriptor} {count : Nat} {m₁ : Manager σ} {next : Next}
    (h : Restores m task rest count m₁ next) :
    m₁.put task next = m.continueRestore task rest count := by
  cases h <;> rfl

/-- An event of the operation leads to the next stage. -/
theorem Stage.turn {old : Task} {m₁ : Manager σ} {next : Next} (hall : Restorable all)
    (h : Stage files task all m n) (hold : m.task? task = some old)
    (hturn : Turn fs s m task e (some old) m₁ next) (haccepts : ¬ m.FailsMount e) :
    Stage files task all (m₁.put task next) (n + 1) := by
  cases h with
  | @clearing done rest d hsplit hlooks hresults =>
    obtain ⟨-, rfl⟩ := task?_of_tasks hlooks.tasks hold
    have hothers := others_of_tasks hlooks.tasks
    have hfree : m.slots.find? d.point = none := by
      rw [hlooks.slots]
      exact hall.free hsplit
    cases hturn with
    | @refused e old d purpose fault hstarts hbars =>
      cases hstarts
      cases hbars with
      | invalid hinvalid =>
        obtain ⟨target, hvalid⟩ := hall.valid d (by simp [hsplit])
        cases hinvalid.symm.trans hvalid
      | taken hvalid htaken => simp [hfree] at htaken
    | @reserved e old d purpose target hstarts hvalid _ =>
      cases hstarts
      refine .mounting target hsplit ⟨hlooks.files, hlooks.mounts, hlooks.sessions, ?_,
        put_wait_tasks hothers _, ?_⟩ hresults
      · rw [put_slots, ← hlooks.slots]
        exact Slots.insert_of_find?_eq_none hfree
      · rw [put_calls, restoreCalls_concat]
        show m.calls ++ [(task, .mount d)] = _
        rw [hlooks.calls, List.append_assoc]
        rfl
  | @mounting done rest d target hsplit hlooks hresults =>
    obtain ⟨-, rfl⟩ := task?_of_tasks hlooks.tasks hold
    have hothers := others_of_tasks hlooks.tasks
    cases hturn with
    | refused hstarts hbars => cases hstarts
    | reserved hstarts hvalid hfree => cases hstarts
    | attached =>
      have hlength : m.sessions.length = done.length := by
        rw [← hlooks.sessions, List.length_map]
      rw [hlength]
      refine .activating hsplit ⟨hlooks.files, hlooks.mounts, ?_, hlooks.slots,
        put_wait_tasks hothers _, hlooks.calls⟩ hresults
      rw [put_sessions, List.map_append, hlooks.sessions]
      rfl
    | released => exact absurd ⟨task, _, d, target, _, rfl, hold⟩ haccepts
  | @activating done rest d hsplit hlooks hresults =>
    obtain ⟨-, rfl⟩ := task?_of_tasks hlooks.tasks hold
    have hothers := others_of_tasks hlooks.tasks
    cases hturn with
    | refused hstarts hbars => cases hstarts
    | reserved hstarts hvalid hfree => cases hstarts
    | relisted hrest =>
      have hlisted : (m.enlist d done.length).slots = Slots.served (done ++ [d]) := by
        have hfree := hall.free hsplit
        rw [enlist, hlooks.slots, ← Slots.insert_of_find?_eq_none hfree,
          Slots.insert_insert hfree, Slots.insert_of_find?_eq_none hfree, Slots.served_concat]
      have hmounts : (m.enlist d done.length).mounts = done ++ [d] := by
        rw [enlist, hlooks.mounts]
      have hrestall : all = (done ++ [d]) ++ rest := by
        rw [hsplit, List.append_assoc]
        rfl
      have hcount : 3 * done.length + 2 + 1 = 3 * (done ++ [d]).length := by
        rw [List.length_append, List.length_singleton]
        omega
      rw [hrest.put_eq, hcount]
      exact Stage.continue hrestall hlooks.files hmounts hlooks.sessions hlisted hothers
        hlooks.calls hresults
  | finished hlooks hresults => exact absurd hold (not_task?_of_tasks hlooks.tasks)

theorem Stage.step (hall : Restorable all) (h : Stage files task all m n)
    (hstep : m.step fs s e = some m') (he : e.begins = false) (haccepts : ¬ m.FailsMount e) :
    Stage files task all m' (n + if e.task? = some task then 1 else 0) := by
  cases step_effect hstep with
  | begun hfresh hturn =>
    rw [hturn.begins] at he
    cases he
  | @resumed e task' old m₁ next hold hturn =>
    have htask : task' = task := by
      cases h with
      | clearing hsplit hlooks hresults => exact (task?_of_tasks hlooks.tasks hold).1
      | mounting target hsplit hlooks hresults => exact (task?_of_tasks hlooks.tasks hold).1
      | activating hsplit hlooks hresults => exact (task?_of_tasks hlooks.tasks hold).1
      | finished hlooks hresults => exact absurd hold (not_task?_of_tasks hlooks.tasks)
    subst htask
    rw [if_pos hturn.task?]
    exact h.turn hall hold hturn haccepts
  | @session i e l k hfree hl hk =>
    refine h.apart ⟨rfl, rfl, rfl, rfl, rfl⟩ ?_ rfl
    obtain ⟨hi, rfl⟩ := List.getElem?_eq_some_iff.mp hl
    apply List.ext_getElem?
    intro j
    by_cases hij : i = j
    · subst hij
      simp [hi]
    · simp [hij]
  | elapsed duration =>
    refine h.apart ⟨rfl, rfl, rfl, rfl, rfl⟩ ?_ rfl
    rw [List.map_map]
    rfl

/-! ## Runs -/

/-- A manager that has just been started begins to restore. -/
theorem stage_restore (fs : FileSystem σ) (htable : s.table = some t)
    (hload : t.load fs files = .ok all) (task : TaskId) :
    ∃ k, (empty files).step fs s (.restore task) = some k ∧ Stage files task all k 0 := by
  refine ⟨({ empty files with fresh := task + 1 } : Manager σ).continueRestore task all all.length,
    ?_, ?_⟩
  · simp [step, begin, empty, htable, hload]
  · exact Stage.continue (List.nil_append all).symm rfl rfl rfl rfl rfl rfl rfl

/-- Where restoring stands after any events, if the mounter mounts every descriptor. -/
theorem run_stage {k : Manager σ} (hall : Restorable all) (hk : Stage files task all k 0)
    (hrun : k.run fs s events = some m) (hevents : ∀ e ∈ events, e.begins = false)
    (haccepts : ¬ Run.Happens (step fs s) k events FailsMount) :
    Stage files task all m (events.countP fun e => e.task? = some task) := by
  refine Run.foldlM_induction (P := fun events m => (∀ e ∈ events, e.begins = false) →
    ¬ Run.Happens (step fs s) k events FailsMount →
    Stage files task all m (events.countP fun e => e.task? = some task)) ?_ ?_ hrun hevents haccepts
  · intro _ _
    exact hk
  · intro events m e m' hrun ih hstep hevents haccepts
    rw [Run.happens_concat_iff hrun, not_or] at haccepts
    have hearlier : ∀ e ∈ events, e.begins = false := fun e' he' =>
      hevents e' (List.mem_append_left _ he')
    have he := hevents e (List.mem_append_right _ List.mem_cons_self)
    have hnext := (ih hearlier haccepts.1).step hall hstep he haccepts.2
    rw [List.countP_append, List.countP_singleton]
    simpa using hnext

/-- Restoring does not get stuck. Whatever the mounter returns lets it go on, unless it fails to
mount. -/
theorem Stage.goesOn (fs : FileSystem σ) (s : Setup) (h : Stage files task all m n)
    (hresults : m.results = []) :
    (∀ result, ¬ m.FailsMount (.returned task result) →
      (m.step fs s (.returned task result)).isSome = true) ∨
      (m.step fs s (.activate task)).isSome = true := by
  have htask? {t : Task} (h : m.tasks = [(task, t)]) : m.task? task = some t := by
    rw [task?, h]
    simp
  cases h with
  | clearing hsplit hlooks _ =>
    left
    intro result _
    simp [Manager.step, htask? hlooks.tasks, goOn]
  | @mounting done rest d target hsplit hlooks _ =>
    left
    intro result haccepts
    have hwaits := htask? hlooks.tasks
    cases result with
    | ok u => simp [Manager.step, hwaits, goOn]
    | error fault => exact absurd ⟨task, fault, d, target, _, rfl, hwaits⟩ haccepts
  | activating hsplit hlooks _ =>
    right
    simp [Manager.step, htask? hlooks.tasks]
  | finished hlooks hover =>
    rw [hresults] at hover
    cases hover

theorem Stage.files_eq (h : Stage files task all m n) : m.files = files := by
  cases h with
  | clearing hsplit hlooks hresults => exact hlooks.files
  | mounting target hsplit hlooks hresults => exact hlooks.files
  | activating hsplit hlooks hresults => exact hlooks.files
  | finished hlooks hresults => exact hlooks.files

theorem Looks.live {listed : List Descriptor} {place : Option Task}
    {calls : List (TaskId × MounterCall)}
    (h : m.Looks files task listed all (Slots.served all) place calls) (hall : Restorable all)
    {d : Descriptor} (hd : d ∈ all) : ∃ l, m.live? d.point = some l ∧ l.descriptor = d := by
  obtain ⟨i, hi⟩ := List.getElem?_of_mem hd
  have hslot : m.slots.find? d.point = some (.active i) := by
    rw [h.slots]
    exact Slots.find?_served hall.distinct hi
  rw [← h.sessions, List.getElem?_map] at hi
  obtain ⟨l, hl, hdescriptor⟩ := Option.map_eq_some_iff.mp hi
  exact ⟨l, by simp only [live?, hslot, hl], hdescriptor⟩

/-- Restoring is over after three events for each mount. -/
theorem Stage.finished_iff (h : Stage files task all m n) :
    n ≤ 3 * all.length ∧ (n = 3 * all.length ↔ m.results ≠ []) := by
  cases h with
  | clearing hsplit hlooks hresults =>
    rw [hsplit, List.length_append, List.length_cons]
    exact ⟨by omega, iff_of_false (by omega) (by simp [hresults])⟩
  | mounting target hsplit hlooks hresults =>
    rw [hsplit, List.length_append, List.length_cons]
    exact ⟨by omega, iff_of_false (by omega) (by simp [hresults])⟩
  | activating hsplit hlooks hresults =>
    rw [hsplit, List.length_append, List.length_cons]
    exact ⟨by omega, iff_of_false (by omega) (by simp [hresults])⟩
  | finished hlooks hresults => exact ⟨Nat.le_refl _, iff_of_true rfl (by simp [hresults])⟩

/-- What callers see of restoring after some events of the operation: it goes on until there were three
for each mount, and is then over, with all mounts listed and served in their order. -/
structure Restored (fs : FileSystem σ) (s : Setup) (files : σ) (task : TaskId)
    (all : List Descriptor) (m : Manager σ) (n : Nat) : Prop where
  files : m.files = files
  bounded : n ≤ 3 * all.length
  finished : n = 3 * all.length ↔ m.results ≠ []
  goesOn : m.results = [] → (∀ result, ¬ m.FailsMount (.returned task result) →
    (m.step fs s (.returned task result)).isSome = true) ∨
      (m.step fs s (.activate task)).isSome = true
  results : m.results ≠ [] → m.results = [(task, .ok (.restored all.length))]
  mounts : m.results ≠ [] → m.mounts = all
  live : m.results ≠ [] → ∀ d ∈ all, ∃ l, m.live? d.point = some l ∧ l.descriptor = d
  calls : m.results ≠ [] → m.calls = restoreCalls task all

theorem Stage.looks_of_finished (h : Stage files task all m n) (hover : m.results ≠ []) :
    m.Looks files task all all (Slots.served all) none (restoreCalls task all) ∧
      m.results = [(task, .ok (.restored all.length))] := by
  cases h with
  | clearing hsplit hlooks hresults => exact absurd hresults hover
  | mounting target hsplit hlooks hresults => exact absurd hresults hover
  | activating hsplit hlooks hresults => exact absurd hresults hover
  | finished hlooks hresults => exact ⟨hlooks, hresults⟩

theorem Stage.restored (fs : FileSystem σ) (s : Setup) (hall : Restorable all)
    (h : Stage files task all m n) : Restored fs s files task all m n where
  files := h.files_eq
  bounded := h.finished_iff.1
  finished := h.finished_iff.2
  goesOn := h.goesOn fs s
  results hover := (h.looks_of_finished hover).2
  mounts hover := (h.looks_of_finished hover).1.mounts
  live hover _ hd := (h.looks_of_finished hover).1.live hall hd
  calls hover := (h.looks_of_finished hover).1.calls

end Manager

end FsGateway.Gateway
