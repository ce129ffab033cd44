import FsGateway.Proofs.Manager.Listing
import FsGateway.Proofs.Manager.Restoring

/-!
# A restart restores what was mounted

The list of mounts that is saved can be restored: every descriptor has passed its check before it was
listed, and no mount point is listed twice if no operation begins after a shutdown. So a new manager
that restores it has the same list.

* `run_checked`: listed descriptors are valid.
* `listedOnce_of_shutsDownLast`: no mount point is listed twice.
* `restart_restores_mounts`: a new manager on the same table lists what the old one listed.
-/

namespace FsGateway.Gateway

open Mount (Path Descriptor Fault FileSystem Table Files)

/-- The descriptor that an operation has checked and not listed yet. -/
def Task.descriptor? : Task → Option Descriptor
  | .mounting d _ _ | .activating d _ _ => some d
  | _ => none

theorem stopNext_descriptor {rest : List SessionId} {t : Task}
    (h : (stopNext rest).task? = some t) : t.descriptor? = none := by
  unfold stopNext at h
  split at h
  · cases h
  · cases h
    rfl

/-- Whether no operation begins after a shutdown in the course of events. -/
def shutsDownLast : List ManagerEvent → Bool
  | [] => true
  | .shutDownAll _ :: events => events.all fun e => !e.begins
  | _ :: events => shutsDownLast events

theorem begins_of_shutsDownLast {before after : List ManagerEvent} {task : TaskId}
    (h : shutsDownLast (before ++ .shutDownAll task :: after) = true) :
    ∀ e ∈ after, e.begins = false := by
  induction before with
  | nil => simpa [shutsDownLast] using h
  | cons first before ih =>
    cases first with
    | shutDownAll task' => simp [shutsDownLast, ManagerEvent.begins] at h
    | _ => exact ih h

namespace Manager

variable {σ : Type} {fs : FileSystem σ} {s s' : Setup} {t : Table} {m m' m₁ : Manager σ}
  {files : σ} {events : List ManagerEvent} {e : ManagerEvent} {task : TaskId} {old : Option Task}
  {next : Next} {p : Path}

/-! ## Listed descriptors are valid -/

/-- Every descriptor that is listed or about to be listed is valid. -/
structure Checked (m : Manager σ) : Prop where
  mounts : ∀ d ∈ m.mounts, ∃ target, d.validate = .ok target
  tasks : ∀ entry ∈ m.tasks, ∀ d, entry.2.descriptor? = some d →
    ∃ target, d.validate = .ok target

theorem Turn.checked (h : Turn fs s m task e old m₁ next)
    (hm : ∀ d ∈ m.mounts, ∃ target, d.validate = .ok target)
    (hold : ∀ t d, old = some t → t.descriptor? = some d → ∃ target, d.validate = .ok target) :
    (∀ d ∈ m₁.mounts, ∃ target, d.validate = .ok target) ∧
      ∀ t d, next.task? = some t → t.descriptor? = some d →
        ∃ target, d.validate = .ok target := by
  have hlisted {d : Descriptor} {i : SessionId} (hd : ∃ target, d.validate = .ok target) :
      ∀ d' ∈ (m.enlist d i).mounts, ∃ target, d'.validate = .ok target := by
    intro d' hd'
    rcases List.mem_append.mp hd' with hd' | hd'
    · exact hm d' hd'
    · rw [List.mem_singleton.mp hd']
      exact hd
  cases h with
  | reserved hstarts hvalid hfree =>
    refine ⟨hm, fun t d ht hd => ?_⟩
    cases ht
    cases hd
    exact ⟨_, hvalid⟩
  | attached =>
    refine ⟨hm, fun t d ht hd => ?_⟩
    cases ht
    exact hold _ d rfl hd
  | listed =>
    refine ⟨?_, fun t d ht => by cases ht⟩
    rw [saveMounts_mounts]
    exact hlisted (hold _ _ rfl rfl)
  | relisted hrest =>
    refine ⟨?_, fun t d ht hd => ?_⟩
    · rw [hrest.frame.2.2.1]
      exact hlisted (hold _ _ rfl rfl)
    · cases hrest <;> cases ht
      cases hd
  | loaded ht hload hrest =>
    refine ⟨?_, fun t d ht hd => ?_⟩
    · rw [hrest.frame.2.2.1]
      exact hm
    · cases hrest <;> cases ht
      cases hd
  | takenOut hslot hl =>
    refine ⟨fun d hd => hm d (List.mem_of_mem_filter hd), fun t d ht hd => ?_⟩
    cases ht
    cases hd
  | allTakenOut =>
    refine ⟨hm, fun t d ht hd => ?_⟩
    rw [stopNext_descriptor ht] at hd
    cases hd
  | @joined i l result sequel hl hphase =>
    refine ⟨hm, fun t d ht hd => ?_⟩
    cases sequel with
    | save =>
      cases ht
      cases hd
    | stopMore rest =>
      rw [stopNext_descriptor ht] at hd
      cases hd
  | saved =>
    refine ⟨?_, fun t d ht => by cases ht⟩
    rw [saveMounts_mounts]
    exact hm
  | _ =>
    refine ⟨hm, fun t d ht hd => ?_⟩
    cases ht <;> cases hd

theorem Effect.checked (h : Effect fs s m e m') (hm : Checked m) : Checked m' := by
  have hput : ∀ (m₀ m₁ : Manager σ) (task : TaskId) (old : Option Task) (next : Next),
      m₀.tasks = m.tasks → m₀.mounts = m.mounts → Turn fs s m₀ task e old m₁ next →
      (∀ t, old = some t → (task, t) ∈ m.tasks) → Checked (m₁.put task next) := by
    intro m₀ m₁ task old next htasks hmounts hturn hold
    obtain ⟨hlisted, hnext⟩ := hturn.checked (by rw [hmounts]; exact hm.mounts)
      fun t d ht => hm.tasks _ (hold t ht) d
    refine ⟨by rw [put_mounts]; exact hlisted, fun entry hentry d hd => ?_⟩
    rw [put_tasks, others, hturn.frame.1, htasks] at hentry
    rcases List.mem_append.mp hentry with hrest | hnew
    · exact hm.tasks entry (List.mem_of_mem_filter hrest) d hd
    · obtain ⟨t, ht, rfl⟩ := List.mem_map.mp hnew
      exact hnext t d (Option.mem_toList.mp ht) hd
  cases h with
  | @begun e task m₁ next hfresh hturn =>
    exact hput { m with fresh := task + 1 } m₁ task none next rfl rfl hturn fun t ht => by cases ht
  | @resumed e task t m₁ next hold hturn =>
    refine hput m m₁ task (some t) next rfl rfl hturn fun t' ht => ?_
    cases ht
    exact mem_of_task? hold
  | session hfree hl hk => exact ⟨hm.mounts, hm.tasks⟩
  | elapsed duration => exact ⟨hm.mounts, hm.tasks⟩

theorem run_checked (h : (empty files).run fs s events = some m) : Checked m := by
  refine Run.foldlM_keeps (P := Checked) ?_ ⟨by simp [empty], by simp [empty]⟩ h
  intro m e m' hm hstep
  exact (step_effect hstep).checked hm

/-! ## No mount point is listed twice -/

/-- Where no operation begins or restores, no operation comes to mount a mount point. -/
theorem not_isMounting_of_rest (hm : Sound m) (hr : RestoresNothing m)
    (hnone : ∀ task, ¬ m.IsMounting task p) (he : e.begins = false)
    (hstep : m.step fs s e = some m') : ∀ task, ¬ m'.IsMounting task p := by
  intro task hmounting
  rcases ((step_effect hstep).isMounting_iff hm).mp hmounting with hcheck | ⟨hbefore, -⟩
  · obtain ⟨d, purpose, target, hstarts, -⟩ := hcheck
    generalize hold : m.task? task = old at hstarts
    cases hstarts with
    | mount d => cases he
    | restore result d rest count => cases hr _ (mem_of_task? hold)
  · exact hnone task hbefore

theorem run_restoresNothing (h : (empty files).run fs s events = some m)
    (hevents : ∀ e ∈ events, e.isRestore = false) : RestoresNothing m := by
  refine Run.foldlM_induction (P := fun events m => (∀ e ∈ events, e.isRestore = false) →
    RestoresNothing m) ?_ ?_ h hevents
  · intro _
    simp [RestoresNothing, empty]
  · intro events m e m' hrun ih hstep hevents
    have he := hevents e (List.mem_append_right _ List.mem_cons_self)
    exact (step_effect hstep).restoresNothing he
      (ih fun e' he' => hevents e' (List.mem_append_left _ he'))

theorem not_isRestore_of_begins (he : e.begins = false) : e.isRestore = false := by
  cases e <;> first | rfl | cases he

/-- A mount point whose session a shutdown has taken out is not mounted again. -/
theorem not_listedAgain (hevents : ∀ e ∈ events, e.isRestore = false)
    (hlast : shutsDownLast events = true) : ¬ ListedAgain fs s (empty files) events p := by
  rintro ⟨before, e, after, k, k', rfl, hk, hstep, ⟨⟨i, hslot⟩, task, rfl⟩, hlists, -⟩
  have hquiet := begins_of_shutsDownLast hlast
  have hsound := run_sound hk
  have hbefore : RestoresNothing k :=
    run_restoresNothing hk fun e he => hevents e (List.mem_append_left _ he)
  have hnone : ∀ task', ¬ k'.IsMounting task' p := by
    intro task' hmounting
    rcases ((step_effect hstep).isMounting_iff hsound).mp hmounting with hcheck | ⟨hmounting, -⟩
    · obtain ⟨d, purpose, target, hstarts, -⟩ := hcheck
      cases hstarts
    · cases (hsound.find?_of_isMounting hmounting).symm.trans hslot
  obtain ⟨first, e, rest, k₁, rfl, hfirst, task', -, hmounting⟩ := hlists
  have hkept : Sound k₁ ∧ RestoresNothing k₁ ∧ ∀ task', ¬ k₁.IsMounting task' p := by
    refine Run.foldlM_induction (P := fun events m => (∀ e ∈ events, e.begins = false) →
      Sound m ∧ RestoresNothing m ∧ ∀ task', ¬ m.IsMounting task' p) ?_ ?_ hfirst fun e he =>
        hquiet e (List.mem_append_left _ he)
    · intro _
      exact ⟨hsound.effect (step_effect hstep), (step_effect hstep).restoresNothing rfl hbefore,
        hnone⟩
    · intro events m e m' hrun ih hstep hevents
      have he := hevents e (List.mem_append_right _ List.mem_cons_self)
      obtain ⟨hm, hr, hnone⟩ := ih fun e' he' => hevents e' (List.mem_append_left _ he')
      exact ⟨hm.effect (step_effect hstep),
        (step_effect hstep).restoresNothing (not_isRestore_of_begins he) hr,
        not_isMounting_of_rest hm hr hnone he hstep⟩
  exact hkept.2.2 task' hmounting

theorem listedOnce_of_shutsDownLast (h : (empty files).run fs s events = some m)
    (hevents : ∀ e ∈ events, e.isRestore = false) (hlast : shutsDownLast events = true) :
    (m.mounts.map (·.point.key)).Nodup := by
  have honce : m.ListedOnce := by
    refine listedOnce_iff.mpr fun p => ?_
    have htwice := (run_entries h p).twice
    have hnot : ¬ ListedAgain fs s (empty files) events p := not_listedAgain hevents hlast
    by_contra hmore
    exact hnot (htwice.mp (Nat.lt_of_not_le hmore))
  rw [List.Nodup, List.pairwise_map]
  simpa only [ListedOnce, Path.same_iff_key] using honce

/-! ## The table -/

/-- When no operation is in progress, the table loads the list of mounts. -/
theorem load_of_idle (hfs : fs.Lawful) (ht : s.table = some t) (hstart : t.load fs files = .ok [])
    (h : (empty files).run fs s events = some m) (hevents : ∀ e ∈ events, e.isRestore = false)
    (hsaves : savesSucceed fs s (empty files) events = true) (hidle : m.tasks = []) :
    t.load fs m.files = .ok m.mounts := by
  have hfollows : Follows fs s t (empty files) events m := by
    refine Run.foldlM_induction (P := fun events m => (∀ e ∈ events, e.isRestore = false) →
      savesSucceed fs s (empty files) events = true → Follows fs s t (empty files) events m)
      ?_ ?_ h hevents hsaves
    · intro _ _
      exact ⟨sound_empty files, by simp [RestoresNothing, empty],
        ⟨[], List.Pairwise.nil, by simp, rfl⟩, hstart, .inr hstart⟩
    · intro events k e m hrun ih hstep hevents hok
      have he := hevents e (List.mem_append_right _ List.mem_cons_self)
      have hearlier := ih (fun e' he' => hevents e' (List.mem_append_left _ he'))
        (savesSucceed_concat hrun hok).1
      exact hearlier.step hfs ht hrun hstep he hok
  refine hfollows.settled.resolve_left ?_
  rintro ⟨entry, hentry, -⟩
  rw [hidle] at hentry
  cases hentry

/-! ## The restart -/

/-- A manager that started with an empty table has mounted and unmounted, and perhaps shut down, and
is idle. A new manager on the same table, whose mounter mounts every descriptor, restores the list of
mounts as it was. -/
theorem restart_restores_mounts (hfs : fs.Lawful) (ht : s.table = some t)
    (ht' : s'.table = some t) (hstart : t.load fs files = .ok [])
    (h : (empty files).run fs s events = some m) (hevents : ∀ e ∈ events, e.isRestore = false)
    (hlast : shutsDownLast events = true) (hsaves : savesSucceed fs s (empty files) events = true)
    (hidle : m.tasks = []) (task : TaskId) :
    ∃ k, (empty m.files).step fs s' (.restore task) = some k ∧
      ∀ after m', k.run fs s' after = some m' → (∀ e ∈ after, e.begins = false) →
        ¬ Run.Happens (step fs s') k after FailsMount →
        Restored fs s' m.files task m.mounts m' (after.countP fun e => e.task? = some task) := by
  have hload := load_of_idle hfs ht hstart h hevents hsaves hidle
  have hall : Restorable m.mounts :=
    ⟨(run_checked h).mounts, listedOnce_of_shutsDownLast h hevents hlast⟩
  obtain ⟨k, hstep, hk⟩ := stage_restore fs ht' hload task
  refine ⟨k, hstep, fun after m' hrun hquiet haccepts => ?_⟩
  exact (run_stage hall hk hrun hquiet haccepts).restored fs s' hall

/-- Two descriptors are mounted, and all sessions are shut down. -/
def shutDownRun : List ManagerEvent :=
  [.mount 0 left, .returned 0 (.ok ()), .activate 0, .session 0 .serve, .mount 1 right,
    .returned 1 (.ok ()), .activate 1, .session 1 .serve, .shutDownAll 2, .stop 2 1,
    .returned 2 (.ok ()), .session 1 .stop, .session 1 .drained, .join 2, .stop 2 0,
    .returned 2 (.ok ()), .session 0 .stop, .session 0 .drained, .join 2]

/-- The mounter returns, and the session that it has attached is listed. -/
def restoreRun : List ManagerEvent :=
  [.returned 0 (.ok ()), .returned 0 (.ok ()), .activate 0, .returned 0 (.ok ()),
    .returned 0 (.ok ()), .activate 0]

theorem restart_restores_shutDownRun : ∃ m k m' : Manager Files,
    (empty ⟨[]⟩).run Files.system tabled shutDownRun = some m ∧ m.mounts = [left, right] ∧
      (empty m.files).step Files.system tabled (.restore 0) = some k ∧
      k.run Files.system tabled restoreRun = some m' ∧
      Restored Files.system tabled m.files 0 m.mounts m' 6 := by
  obtain ⟨m, hrun, hidle, hmounts⟩ : ∃ m : Manager Files,
      (empty ⟨[]⟩).run Files.system tabled shutDownRun = some m ∧ m.tasks = [] ∧
        m.mounts = [left, right] := ⟨_, rfl, rfl, rfl⟩
  have htable : tabled.table = some ⟨⟨"mounts.json"⟩, ⟨"mounts.bak"⟩⟩ := rfl
  have hsaves : savesSucceed Files.system tabled (empty ⟨[]⟩) shutDownRun = true := by
    decide +kernel
  have hevents : ∀ e ∈ shutDownRun, e.isRestore = false := by
    simp [shutDownRun, ManagerEvent.isRestore]
  obtain ⟨k, hstep, hrestored⟩ := restart_restores_mounts Files.system_lawful htable htable rfl
    hrun hevents rfl hsaves hidle 0
  have hcomputed : ((empty ⟨[]⟩).run Files.system tabled shutDownRun).any (fun m =>
      ((empty m.files).run Files.system tabled (.restore 0 :: restoreRun)).isSome) = true := by
    decide +kernel
  obtain ⟨m', hrestore⟩ : ∃ m', k.run Files.system tabled restoreRun = some m' := by
    rw [hrun, Option.any_some] at hcomputed
    obtain ⟨m', hm'⟩ := Option.isSome_iff_exists.mp hcomputed
    obtain ⟨k', hk', hrest⟩ := Run.foldlM_cons_eq_some hm'
    cases hstep.symm.trans hk'
    exact ⟨m', hrest⟩
  have hquiet : ∀ e ∈ restoreRun, e.begins = false := by
    simp [restoreRun, ManagerEvent.begins]
  have haccepts : ¬ Run.Happens (step Files.system tabled) k restoreRun FailsMount := by
    rintro ⟨before, e, after, k', hsplit, -, task, fault, d, target, purpose, rfl, -⟩
    have hmem : .returned task (.error fault) ∈ restoreRun := by simp [hsplit]
    simp [restoreRun] at hmem
  exact ⟨m, k, m', hrun, hmounts, hstep, hrestore, hrestored restoreRun m' hrestore hquiet haccepts⟩

end Manager

end FsGateway.Gateway
