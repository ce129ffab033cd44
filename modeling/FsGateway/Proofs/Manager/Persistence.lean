import FsGateway.Proofs.Manager.Ownership
import FsGateway.Proofs.Mount.Files

/-!
# The saved list follows the list of mounts

A mount lists its session and saves the list in one step. An unmount takes its session from the list
long before it saves. In between the saved list is behind, but the unmount still has to save.

* `Manager.saving?`: the manager whose list an event saves.
* `Manager.OwesSave`: an unmount in progress still has to save the list.
* `saved_lists_follow_mounts`: saved lists are the list of mounts at one moment after another, and
  when no operation is in progress, the table loads the list of mounts.
-/

namespace FsGateway.Gateway

open Mount (Path Descriptor Fault FileSystem Table Files)

/-- Whether an event begins to restore what was saved. -/
def ManagerEvent.isRestore : ManagerEvent → Bool
  | .restore _ => true
  | _ => false

/-- Whether an operation restores what was saved. -/
def Task.isRestoring : Task → Bool
  | .clearing .. | .mounting _ _ (.restoring ..) | .activating _ _ (.restoring ..) => true
  | _ => false

theorem stopNext_not_restoring {rest : List SessionId} {t : Task}
    (h : (stopNext rest).task? = some t) : t.isRestoring = false := by
  unfold stopNext at h
  split at h
  · cases h
  · cases h
    rfl

/-- Whether an operation is an unmount that still has to save the list. -/
def Task.owesSave : Task → Bool
  | .detaching _ .save | .joining _ _ .save | .saving _ => true
  | _ => false

namespace Manager

variable {σ : Type} {fs : FileSystem σ} {s : Setup} {t : Table} {m m' m₁ k : Manager σ}
  {task : TaskId} {e : ManagerEvent} {events : List ManagerEvent} {old : Option Task} {next : Next}

/-! ## Saving -/

/-- The manager whose list of mounts an event saves, if it saves one. -/
def saving? (m : Manager σ) : ManagerEvent → Option (Manager σ)
  | .activate task =>
    match m.task? task with
    | some (.activating d i .single) => some (m.enlist d i)
    | _ => none
  | .save task =>
    match m.task? task with
    | some (.saving _) => some m
    | _ => none
  | _ => none

/-- The lists that are saved in the course of events, one after another. -/
def savedLists (fs : FileSystem σ) (s : Setup) : Manager σ → List ManagerEvent →
    List (List Descriptor)
  | _, [] => []
  | m, e :: events => ((m.saving? e).map (·.mounts)).toList ++
      ((m.step fs s e).map fun m => savedLists fs s m events).getD []

/-- Whether the list is saved whenever it is to be saved in the course of events. -/
def savesSucceed (fs : FileSystem σ) (s : Setup) : Manager σ → List ManagerEvent → Bool
  | _, [] => true
  | m, e :: events => (m.saving? e).all (fun m => (m.saveMounts fs s).1.isOk) &&
      (m.step fs s e).all fun m => savesSucceed fs s m events

/-- The list of mounts after so many of the events. -/
def mountsAfter (fs : FileSystem σ) (s : Setup) (m : Manager σ) (events : List ManagerEvent)
    (count : Nat) : Option (List Descriptor) :=
  (m.run fs s (events.take count)).map (·.mounts)

/-- What is saved is the list of mounts after the event, and the files change by saving only. -/
theorem Effect.saves (h : Effect fs s m e m') :
    (m.saving? e = none ∧ m'.files = m.files) ∨
      ∃ k, m.saving? e = some k ∧ m'.files = (k.saveMounts fs s).2.files ∧
        m'.mounts = k.mounts := by
  cases h with
  | begun hfresh hturn =>
    left
    cases hturn with
    | refused hstarts hbars =>
      cases hstarts
      exact ⟨rfl, put_files _⟩
    | reserved hstarts hvalid hfree =>
      cases hstarts
      exact ⟨rfl, put_files _⟩
    | loaded ht hload hrest => cases hrest <;> exact ⟨rfl, put_files _⟩
    | _ => exact ⟨rfl, put_files _⟩
  | resumed hold hturn =>
    cases hturn with
    | listed =>
      right
      refine ⟨_, by simp only [saving?, hold], put_files _, ?_⟩
      rw [put_mounts, saveMounts_mounts]
    | saved =>
      right
      refine ⟨m, by simp only [saving?, hold], put_files _, ?_⟩
      rw [put_mounts, saveMounts_mounts]
    | relisted hrest =>
      left
      refine ⟨by simp only [saving?, hold], ?_⟩
      cases hrest <;> exact put_files _
    | refused hstarts hbars =>
      cases hstarts
      exact Or.inl ⟨rfl, put_files _⟩
    | reserved hstarts hvalid hfree =>
      cases hstarts
      exact Or.inl ⟨rfl, put_files _⟩
    | _ => exact Or.inl ⟨rfl, put_files _⟩
  | session hfree hl hk => exact Or.inl ⟨rfl, rfl⟩
  | elapsed duration => exact Or.inl ⟨rfl, rfl⟩

/-- The table loads a list that was saved. -/
theorem load_of_saveMounts (hfs : fs.Lawful) (ht : s.table = some t)
    (h : (k.saveMounts fs s).1.isOk = true) :
    t.load fs (k.saveMounts fs s).2.files = .ok k.mounts := by
  rw [saveMounts_of_table ht] at h ⊢
  refine Table.load_of_save hfs (s := k.files) (Prod.ext ?_ rfl)
  cases hsave : (t.save fs k.mounts k.files).1 with
  | ok u => rfl
  | error fault =>
    rw [hsave] at h
    cases h

/-! ## What is still to be saved -/

/-- No operation restores what was saved. -/
def RestoresNothing (m : Manager σ) : Prop := ∀ entry ∈ m.tasks, entry.2.isRestoring = false

/-- An unmount in progress still has to save the list. -/
def OwesSave (m : Manager σ) : Prop := ∃ entry ∈ m.tasks, entry.2.owesSave = true

theorem Turn.not_restoring {t : Task} (h : Turn fs s m task e old m₁ next)
    (he : e.isRestore = false) (hold : ∀ t, old = some t → t.isRestoring = false)
    (hnext : next.task? = some t) : t.isRestoring = false := by
  cases h with
  | reserved hstarts hvalid hfree =>
    cases hnext
    cases hstarts with
    | mount d => rfl
    | restore result d rest count => cases hold _ rfl
  | @attached d target purpose =>
    cases hnext
    cases purpose with
    | single => rfl
    | restoring rest count => cases hold _ rfl
  | relisted hrest => cases hold _ rfl
  | loaded ht hload hrest => cases he
  | allTakenOut => exact stopNext_not_restoring hnext
  | @joined i l result sequel hl hphase =>
    cases sequel with
    | save =>
      cases hnext
      rfl
    | stopMore rest => exact stopNext_not_restoring hnext
  | _ => cases hnext <;> rfl

theorem Effect.restoresNothing (h : Effect fs s m e m') (he : e.isRestore = false)
    (hm : RestoresNothing m) : RestoresNothing m' := by
  -- the operations besides one restore nothing, and neither does that one where it has gone
  have hput : ∀ (m₀ m₁ : Manager σ) (task : TaskId) (old : Option Task) (next : Next),
      m₀.tasks = m.tasks → Turn fs s m₀ task e old m₁ next →
      (∀ t, old = some t → t.isRestoring = false) → RestoresNothing (m₁.put task next) := by
    intro m₀ m₁ task old next hsame hturn hold entry hentry
    rw [put_tasks, others, hturn.frame.1, hsame] at hentry
    rcases List.mem_append.mp hentry with hrest | hnew
    · exact hm entry (List.mem_of_mem_filter hrest)
    · obtain ⟨t, ht, rfl⟩ := List.mem_map.mp hnew
      exact hturn.not_restoring he hold (Option.mem_toList.mp ht)
  cases h with
  | @begun e task m₁ next hfresh hturn =>
    exact hput { m with fresh := task + 1 } m₁ task none next rfl hturn fun t ht => by cases ht
  | @resumed e task t m₁ next hold hturn =>
    refine hput m m₁ task (some t) next rfl hturn fun t' ht => ?_
    cases ht
    exact hm _ (mem_of_task? hold)
  | session hfree hl hk => exact hm
  | elapsed duration => exact hm

/-- The list of mounts changes where it is saved, or where an operation goes on that has to save. -/
theorem Turn.mounts (h : Turn fs s m task e old m₁ next) (he : e.isRestore = false)
    (hold : ∀ t, old = some t → t.isRestoring = false) :
    m₁.mounts = m.mounts ∨ (e = .activate task ∧ ∃ d i, old = some (.activating d i .single)) ∨
      ∃ t, next.task? = some t ∧ t.owesSave = true := by
  cases h with
  | listed => exact Or.inr (Or.inl ⟨rfl, _, _, rfl⟩)
  | relisted hrest => cases hold _ rfl
  | loaded ht hload hrest => cases he
  | takenOut hslot hl => exact Or.inr (Or.inr ⟨_, rfl, rfl⟩)
  | saved => exact Or.inl saveMounts_mounts
  | _ => exact Or.inl rfl

/-- An unmount has to save until it does. -/
theorem Turn.owing {t : Task} (h : Turn fs s m task e (some t) m₁ next)
    (ht : t.owesSave = true) : (e = .save task ∧ ∃ result, t = .saving result) ∨
      ∃ t', next.task? = some t' ∧ t'.owesSave = true := by
  cases h with
  | refused hstarts hbars => cases hstarts; cases ht
  | reserved hstarts hvalid hfree => cases hstarts; cases ht
  | @detached i l k result sequel hl hk =>
    cases sequel with
    | save => exact Or.inr ⟨_, rfl, rfl⟩
    | stopMore rest => cases ht
  | @joined i l result sequel hl hphase =>
    cases sequel with
    | save => exact Or.inr ⟨_, rfl, rfl⟩
    | stopMore rest => cases ht
  | saved => exact Or.inl ⟨rfl, _, rfl⟩
  | _ => cases ht

theorem owesSave_put {t : Task} (ht : next.task? = some t) (howes : t.owesSave = true) :
    OwesSave (m.put task next) := by
  refine ⟨(task, t), ?_, howes⟩
  rw [put_tasks, ht]
  exact List.mem_append_right _ List.mem_cons_self

/-- A turn saves, or something is still to be saved after it, or there is nothing to save. -/
theorem Turn.debt (hstands : Stands m task old (m.others task)) (hr : RestoresNothing m)
    (he : e.isRestore = false) (h : Turn fs s m task e old m₁ next) :
    (e = .save task ∧ ∃ result, old = some (.saving result)) ∨
      (e = .activate task ∧ ∃ d i, old = some (.activating d i .single)) ∨
      OwesSave (m₁.put task next) ∨ ((m₁.put task next).mounts = m.mounts ∧ ¬ OwesSave m) := by
  have hold : ∀ t, old = some t → (task, t) ∈ m.tasks := by
    rintro t rfl
    exact hstands.mem_iff.mpr (List.mem_append_left _ List.mem_cons_self)
  by_cases howes : OwesSave m
  · obtain ⟨entry, hmem, hentry⟩ := howes
    -- either the operation that goes on has to save, or another one, which stays where it is
    rcases List.mem_append.mp (hstands.mem_iff.mp hmem) with hmine | hrest
    · obtain ⟨t, ht, rfl⟩ := List.mem_map.mp hmine
      obtain rfl := Option.mem_toList.mp ht
      rcases h.owing hentry with ⟨he, result, rfl⟩ | ⟨t', ht', hnew⟩
      · exact Or.inl ⟨he, result, rfl⟩
      · exact Or.inr (Or.inr (Or.inl (owesSave_put ht' hnew)))
    · refine Or.inr (Or.inr (Or.inl ⟨entry, ?_, hentry⟩))
      rw [put_tasks, others, h.frame.1]
      exact List.mem_append_left _ hrest
  · rcases h.mounts he fun t ht => hr _ (hold t ht) with hsame | hlisted | ⟨t, ht, hnew⟩
    · exact Or.inr (Or.inr (Or.inr ⟨by rw [put_mounts, hsame], howes⟩))
    · exact Or.inr (Or.inl hlisted)
    · exact Or.inr (Or.inr (Or.inl (owesSave_put ht hnew)))

/-- An event saves, or something is still to be saved after it, or there is nothing to save. -/
theorem Effect.debt (hm : Sound m) (hr : RestoresNothing m) (he : e.isRestore = false)
    (h : Effect fs s m e m') :
    (m.saving? e).isSome = true ∨ OwesSave m' ∨ (m'.mounts = m.mounts ∧ ¬ OwesSave m) := by
  -- what happens to a connection or to the clock leaves operations and mounts alone
  have hidle : OwesSave m ∨ (m.mounts = m.mounts ∧ ¬ OwesSave m) :=
    (em (OwesSave m)).imp_right fun howes => ⟨rfl, howes⟩
  cases h with
  | @begun e task m₁ next hfresh hturn =>
    have hdebt := Turn.debt (m := { m with fresh := task + 1 }) (hm.stands_of_fresh hfresh) hr he
      hturn
    rcases hdebt with ⟨-, r, hold⟩ | ⟨-, d, i, hold⟩ | hdebt
    · cases hold
    · cases hold
    · exact Or.inr hdebt
  | @resumed e task t m₁ next hold hturn =>
    rcases hturn.debt (hm.stands_of_task? hold) hr he with
      ⟨rfl, r, ht⟩ | ⟨rfl, d, i, ht⟩ | hdebt
    · cases ht
      exact Or.inl (by simp only [saving?, hold, Option.isSome_some])
    · cases ht
      exact Or.inl (by simp only [saving?, hold, Option.isSome_some])
    · exact Or.inr hdebt
  | session hfree hl hk => exact Or.inr hidle
  | elapsed duration => exact Or.inr hidle

/-! ## Runs -/

theorem savedLists_concat (hrun : m.run fs s events = some m') (e : ManagerEvent) :
    savedLists fs s m (events ++ [e]) =
      savedLists fs s m events ++ ((m'.saving? e).map (·.mounts)).toList := by
  induction events generalizing m with
  | nil =>
    cases hrun
    cases hstep : m'.step fs s e <;> simp [savedLists, hstep]
  | cons first events ih =>
    obtain ⟨k, hstep, hrest⟩ := Option.bind_eq_some_iff.mp hrun
    simp only [List.cons_append, savedLists, hstep, Option.map_some, Option.getD_some, ih hrest,
      List.append_assoc]

theorem savesSucceed_concat (hrun : m.run fs s events = some m')
    (hok : savesSucceed fs s m (events ++ [e]) = true) :
    savesSucceed fs s m events = true ∧
      ∀ k, m'.saving? e = some k → (k.saveMounts fs s).1.isOk = true := by
  induction events generalizing m with
  | nil =>
    cases hrun
    simp only [List.nil_append, savesSucceed, Bool.and_eq_true] at hok
    refine ⟨rfl, fun k hk => ?_⟩
    rw [hk] at hok
    exact hok.1
  | cons first events ih =>
    obtain ⟨k, hstep, hrest⟩ := Option.bind_eq_some_iff.mp hrun
    simp only [List.cons_append, savesSucceed, hstep, Option.all_some, Bool.and_eq_true] at hok ⊢
    obtain ⟨hfirst, hsaves⟩ := ih hrest hok.2
    exact ⟨⟨hok.1, hfirst⟩, hsaves⟩

theorem mountsAfter_concat {count : Nat} (hcount : count ≤ events.length) (e : ManagerEvent) :
    mountsAfter fs s m (events ++ [e]) count = mountsAfter fs s m events count := by
  rw [mountsAfter, mountsAfter, List.take_append_of_le_length hcount]

theorem mountsAfter_length (hrun : m.run fs s events = some m') :
    mountsAfter fs s m events events.length = some m'.mounts := by
  rw [mountsAfter, List.take_length, hrun, Option.map_some]

/-- Lists are the list of mounts at one moment after another in the course of events. -/
def InOrder (fs : FileSystem σ) (s : Setup) (m : Manager σ) (events : List ManagerEvent)
    (lists : List (List Descriptor)) : Prop :=
  ∃ moments : List Nat, moments.Pairwise (· < ·) ∧ (∀ count ∈ moments, count ≤ events.length) ∧
    lists.map some = moments.map (mountsAfter fs s m events)

theorem InOrder.concat {lists : List (List Descriptor)} (h : InOrder fs s m events lists)
    (e : ManagerEvent) : InOrder fs s m (events ++ [e]) lists := by
  obtain ⟨moments, hincreasing, hle, hlists⟩ := h
  refine ⟨moments, hincreasing, fun count hcount => ?_, ?_⟩
  · rw [List.length_append]
    exact Nat.le_add_right_of_le (hle count hcount)
  · rw [hlists]
    exact List.map_congr_left fun count hcount => (mountsAfter_concat (hle count hcount) e).symm

/-- The list of mounts after the last event comes after all those before it. -/
theorem InOrder.concat_latest {lists : List (List Descriptor)} (h : InOrder fs s m events lists)
    (hrun : m.run fs s (events ++ [e]) = some m') :
    InOrder fs s m (events ++ [e]) (lists ++ [m'.mounts]) := by
  have hlatest := mountsAfter_length hrun
  obtain ⟨moments, hincreasing, hle, hlists⟩ := h
  have hlength : (events ++ [e]).length = events.length + 1 := by simp
  refine ⟨moments ++ [(events ++ [e]).length], ?_, ?_, ?_⟩
  · refine List.pairwise_append.mpr ⟨hincreasing, List.pairwise_singleton _ _, ?_⟩
    intro count hcount last hlast
    rw [List.mem_singleton.mp hlast, hlength]
    exact Nat.lt_succ_of_le (hle count hcount)
  · intro count hcount
    rcases List.mem_append.mp hcount with hcount | hcount
    · rw [hlength]
      exact Nat.le_succ_of_le (hle count hcount)
    · exact Nat.le_of_eq (List.mem_singleton.mp hcount)
  · rw [List.map_append, List.map_append, List.map_singleton, List.map_singleton, hlatest, hlists]
    congr 1
    exact List.map_congr_left fun count hcount => (mountsAfter_concat (hle count hcount) e).symm

/-- What holds in the course of events where nothing is restored and all saves succeed. -/
structure Follows (fs : FileSystem σ) (s : Setup) (t : Table) (m : Manager σ)
    (events : List ManagerEvent) (m' : Manager σ) : Prop where
  sound : Sound m'
  restoresNothing : RestoresNothing m'
  inOrder : InOrder fs s m events (savedLists fs s m events)
  loads : t.load fs m'.files = .ok ((savedLists fs s m events).getLastD m.mounts)
  settled : OwesSave m' ∨ t.load fs m'.files = .ok m'.mounts

theorem Follows.step (hfs : fs.Lawful) (ht : s.table = some t) (h : Follows fs s t m events k)
    (hrun : m.run fs s events = some k) (hstep : k.step fs s e = some m')
    (he : e.isRestore = false) (hok : savesSucceed fs s m (events ++ [e]) = true) :
    Follows fs s t m (events ++ [e]) m' := by
  have heffect := step_effect hstep
  have hrun' : m.run fs s (events ++ [e]) = some m' :=
    Run.foldlM_append_of hrun (by simpa using hstep)
  have hlists := savedLists_concat hrun e
  have hsound := h.sound.effect heffect
  have hrestores := heffect.restoresNothing he h.restoresNothing
  rcases heffect.saves with ⟨hnone, hfiles⟩ | ⟨saved, hsome, hfiles, hmounts⟩
  · have hsame : savedLists fs s m (events ++ [e]) = savedLists fs s m events := by
      rw [hlists, hnone, Option.map_none, Option.toList_none, List.append_nil]
    refine ⟨hsound, hrestores, ?_, ?_, ?_⟩
    · rw [hsame]
      exact h.inOrder.concat e
    · rw [hsame, hfiles]
      exact h.loads
    · rcases heffect.debt h.sound h.restoresNothing he with hsaves | howes | ⟨hkept, hsettled⟩
      · rw [hnone] at hsaves
        cases hsaves
      · exact Or.inl howes
      · rw [hfiles, hkept]
        exact Or.inr (h.settled.resolve_left hsettled)
  · have hload : t.load fs m'.files = .ok m'.mounts := by
      rw [hfiles, hmounts]
      exact load_of_saveMounts hfs ht ((savesSucceed_concat hrun hok).2 saved hsome)
    have hlatest : savedLists fs s m (events ++ [e]) = savedLists fs s m events ++ [m'.mounts] := by
      rw [hlists, hsome, hmounts, Option.map_some, Option.toList_some]
    refine ⟨hsound, hrestores, ?_, ?_, Or.inr hload⟩
    · rw [hlatest]
      exact h.inOrder.concat_latest hrun'
    · rw [hlatest, List.getLastD_concat]
      exact hload

/-- Where all saves succeed, the lists that are saved are the list of mounts at one moment after
another, the table always loads the latest of them, and when no operation is in progress, it loads
the list of mounts. -/
theorem saved_lists_follow_mounts {files : σ} {before : List ManagerEvent} (hfs : fs.Lawful)
    (ht : s.table = some t) (hreach : (empty files).run fs s before = some m)
    (hr : RestoresNothing m) (hstart : t.load fs m.files = .ok m.mounts)
    (hevents : ∀ e ∈ events, e.isRestore = false) (hrun : m.run fs s events = some m')
    (hok : savesSucceed fs s m events = true) :
    InOrder fs s m events (savedLists fs s m events) ∧
      t.load fs m'.files = .ok ((savedLists fs s m events).getLastD m.mounts) ∧
      (m'.tasks = [] → t.load fs m'.files = .ok m'.mounts) := by
  have hfollows : (∀ e ∈ events, e.isRestore = false) → savesSucceed fs s m events = true →
      Follows fs s t m events m' := by
    refine Run.foldlM_induction (P := fun events m' => (∀ e ∈ events, e.isRestore = false) →
      savesSucceed fs s m events = true → Follows fs s t m events m') ?_ ?_ hrun
    · intro _ _
      exact ⟨run_sound hreach, hr, ⟨[], List.Pairwise.nil, by simp, rfl⟩, hstart, Or.inr hstart⟩
    · intro events k e m' hrun ih hstep hevents hok
      have hearlier : ∀ e ∈ events, e.isRestore = false := fun e' he' =>
        hevents e' (List.mem_append_left _ he')
      have he := hevents e (List.mem_append_right _ List.mem_cons_self)
      exact (ih hearlier (savesSucceed_concat hrun hok).1).step hfs ht hrun hstep he hok
  have h := hfollows hevents hok
  refine ⟨h.inOrder, h.loads, fun hidle => h.settled.resolve_left ?_⟩
  rintro ⟨entry, hmem, -⟩
  rw [hidle] at hmem
  cases hmem

/-- A manager with a table, whose connections have no time limits. -/
def tabled : Setup where
  client := ⟨.raw, none⟩
  requestTimeout := none
  drainTimeout := none
  table := some ⟨⟨"mounts.json"⟩, ⟨"mounts.bak"⟩⟩

def left : Descriptor := { point := ⟨"/l"⟩, target := "http://h" }

def right : Descriptor := { point := ⟨"/r"⟩, target := "http://h" }

/-- While one session is being stopped, another one is listed and saved. -/
def interleaved : List ManagerEvent :=
  [.mount 0 left, .mount 1 right, .returned 0 (.ok ()), .activate 0, .session 0 .serve,
    .unmount 2 left.point, .returned 2 (.ok ()), .returned 1 (.ok ()), .activate 1,
    .session 0 .stop, .session 0 .drained, .join 2, .save 2]

theorem saved_lists_follow_interleaved : ∃ m : Manager Files,
    (empty ⟨[]⟩).run Files.system tabled interleaved = some m ∧
      InOrder Files.system tabled (empty ⟨[]⟩) interleaved [[left], [right], [right]] ∧
      Table.load Files.system ⟨⟨"mounts.json"⟩, ⟨"mounts.bak"⟩⟩ m.files = .ok [right] := by
  obtain ⟨m, hrun, htasks, hmounts⟩ : ∃ m : Manager Files,
      (empty ⟨[]⟩).run Files.system tabled interleaved = some m ∧ m.tasks = [] ∧
        m.mounts = [right] := ⟨_, rfl, rfl, rfl⟩
  have hlists : savedLists Files.system tabled (empty ⟨[]⟩) interleaved =
      [[left], [right], [right]] := by decide +kernel
  have hok : savesSucceed Files.system tabled (empty ⟨[]⟩) interleaved = true := by decide +kernel
  have hevents : ∀ e ∈ interleaved, e.isRestore = false := by
    simp [interleaved, ManagerEvent.isRestore]
  have hidle : RestoresNothing (empty (⟨[]⟩ : Files)) := by simp [RestoresNothing, empty]
  have hreach : (empty ⟨[]⟩).run Files.system tabled [] = some (empty (⟨[]⟩ : Files)) := rfl
  obtain ⟨horder, -, hloads⟩ :=
    saved_lists_follow_mounts Files.system_lawful rfl hreach hidle rfl hevents hrun hok
  rw [hlists] at horder
  rw [hmounts] at hloads
  exact ⟨m, hrun, horder, hloads htasks⟩

end Manager

end FsGateway.Gateway
