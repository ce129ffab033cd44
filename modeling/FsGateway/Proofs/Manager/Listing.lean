import FsGateway.Proofs.Manager.Exclusion
import FsGateway.Proofs.Manager.MountPoint
import FsGateway.Proofs.Manager.Persistence

/-!
# How often a mount point is listed

An unmount takes a session out together with the entries of its mount point. A shutdown takes sessions
out and leaves the list alone, so that it can be restored. Where a mount point is mounted again after
that, it has two entries, in the list that callers see and in the list that is saved.

* `LeftBehind`, `ListedAgain`: what a shutdown has left in the list in the course of events.
* `listed_twice_iff`: a mount point is listed twice exactly where it was listed again after a shutdown.
* `not_alwaysListedOnce`: mount points can be listed twice.
-/

namespace FsGateway.Gateway

open Mount (Path Descriptor Fault FileSystem Table Files)

namespace Manager

variable {σ : Type} {fs : FileSystem σ} {s : Setup} {m m' : Manager σ} {files : σ}
  {events : List ManagerEvent} {e : ManagerEvent} {task : TaskId} {d : Descriptor} {p : Path}

/-- No two entries of the list of mounts name one mount point. -/
def ListedOnce (m : Manager σ) : Prop :=
  m.mounts.Pairwise fun d d' => ¬ d.point.same d'.point = true

/-- A shutdown took out the session of a mount point, and no unmount has taken one out since. -/
def LeftBehind (fs : FileSystem σ) (s : Setup) (m : Manager σ) (events : List ManagerEvent)
    (p : Path) : Prop :=
  Run.Since (step fs s) m events (fun m e => m.ShutsDown p e) fun m e => m.TakesOut p e

/-- The same, and the mount point was listed after that shutdown. -/
def ListedAgain (fs : FileSystem σ) (s : Setup) (m : Manager σ) (events : List ManagerEvent)
    (p : Path) : Prop :=
  Run.Followed (step fs s) m events (fun m e => m.ShutsDown p e) (fun m e => m.Lists p e)
    fun m e => m.TakesOut p e

/-! ## Runs -/

/-- How the entries of a mount point come from the events so far. -/
structure Entries (fs : FileSystem σ) (s : Setup) (start : Manager σ) (events : List ManagerEvent)
    (m : Manager σ) (p : Path) : Prop where
  listed : 1 ≤ m.listings p ↔ m.IsActive p ∨ LeftBehind fs s start events p
  twice : 2 ≤ m.listings p ↔ ListedAgain fs s start events p
  again : m.IsActive p → LeftBehind fs s start events p → ListedAgain fs s start events p

namespace Entries

section Step

variable {start : Manager σ} (h : Entries fs s start events m p)
  (hrun : start.run fs s events = some m) (hstep : m.step fs s e = some m')

include hrun hstep in
theorem leftBehind_concat_iff : LeftBehind fs s start (events ++ [e]) p ↔
    m.ShutsDown p e ∨ LeftBehind fs s start events p ∧ ¬ m.TakesOut p e :=
  Run.since_concat_iff hrun hstep

include hrun in
theorem listedAgain_concat_iff : ListedAgain fs s start (events ++ [e]) p ↔
    (ListedAgain fs s start events p ∨ LeftBehind fs s start events p ∧ m.Lists p e) ∧
      ¬ m.TakesOut p e :=
  Run.followed_concat_iff hrun

include h hrun hstep

/-- Where nothing is listed or taken out, the same entries are there for the same reasons. -/
theorem still (hlists : ¬ m.Lists p e) (htakes : ¬ m.TakesOut p e) (hshuts : ¬ m.ShutsDown p e)
    (hactive : m'.IsActive p ↔ m.IsActive p) (hlistings : m'.listings p = m.listings p) :
    Entries fs s start (events ++ [e]) m' p := by
  have hleft : LeftBehind fs s start (events ++ [e]) p ↔ LeftBehind fs s start events p := by
    rw [leftBehind_concat_iff hrun hstep]
    simp [htakes, hshuts]
  have hagain : ListedAgain fs s start (events ++ [e]) p ↔ ListedAgain fs s start events p := by
    rw [listedAgain_concat_iff hrun]
    simp [htakes, hlists]
  refine ⟨?_, ?_, ?_⟩
  · rw [hlistings, hactive, hleft]
    exact h.listed
  · rw [hlistings, hagain]
    exact h.twice
  · rw [hactive, hleft, hagain]
    exact h.again

/-- A session is listed after those that a shutdown has left behind. -/
theorem activated (hidle : ¬ m.IsActive p) (hactive : m'.IsActive p) (hlists : m.Lists p e)
    (hlistings : m'.listings p = m.listings p + 1) :
    Entries fs s start (events ++ [e]) m' p := by
  have htakes : ¬ m.TakesOut p e := fun htakes => hidle htakes.1
  have hshuts : ¬ m.ShutsDown p e := fun hshuts => hidle hshuts.1
  have hone := h.listed
  simp only [hidle, false_or] at hone
  have hstays : ListedAgain fs s start events p → LeftBehind fs s start events p :=
    Run.Followed.since
  have hagain : ListedAgain fs s start (events ++ [e]) p ↔ LeftBehind fs s start events p := by
    rw [listedAgain_concat_iff hrun]
    simp only [hlists, htakes, and_true, not_false_eq_true]
    exact or_iff_right_of_imp hstays
  refine ⟨iff_of_true (by omega) (Or.inl hactive), ?_, ?_⟩
  · rw [hagain, ← hone]
    omega
  · intro _ hbefore
    rw [hagain]
    rw [leftBehind_concat_iff hrun hstep] at hbefore
    exact (hbefore.resolve_left hshuts).1

omit h in
/-- An unmount leaves nothing behind. -/
theorem takenOut (htakes : m.TakesOut p e) (hshuts : ¬ m.ShutsDown p e) (hidle : ¬ m'.IsActive p)
    (hlistings : m'.listings p = 0) : Entries fs s start (events ++ [e]) m' p := by
  have hgone : ¬ LeftBehind fs s start (events ++ [e]) p := by
    rw [leftBehind_concat_iff hrun hstep]
    exact not_or.mpr ⟨hshuts, fun hnot => hnot.2 htakes⟩
  have hagone : ¬ ListedAgain fs s start (events ++ [e]) p := by
    rw [listedAgain_concat_iff hrun]
    exact fun hnot => hnot.2 htakes
  refine ⟨iff_of_false (by omega) (not_or.mpr ⟨hidle, hgone⟩), iff_of_false (by omega) hagone, ?_⟩
  exact fun hactive => absurd hactive hidle

/-- A shutdown leaves every entry behind. -/
theorem shutDown (hshuts : m.ShutsDown p e) (hlists : ¬ m.Lists p e) (htakes : ¬ m.TakesOut p e)
    (hidle : ¬ m'.IsActive p) (hlistings : m'.listings p = m.listings p) :
    Entries fs s start (events ++ [e]) m' p := by
  have hleft : LeftBehind fs s start (events ++ [e]) p :=
    (leftBehind_concat_iff hrun hstep).mpr (Or.inl hshuts)
  refine ⟨?_, ?_, fun hactive => absurd hactive hidle⟩
  · rw [hlistings]
    exact iff_of_true (h.listed.mpr (Or.inl hshuts.1)) (Or.inr hleft)
  · rw [hlistings, h.twice, listedAgain_concat_iff hrun]
    simp [hlists, htakes]

theorem step (hm : Sound m) : Entries fs s start (events ++ [e]) m' p := by
  cases (step_effect hstep).atPoint hm p with
  | kept hlists htakes hshuts hslot hlistings =>
    exact h.still hrun hstep hlists htakes hshuts (by rw [IsActive, IsActive, hslot]) hlistings
  | reserved task hcheck hfree hslot hlistings =>
    obtain ⟨d, purpose, target, hstarts, -⟩ := hcheck
    have he := hstarts.isStill
    refine h.still hrun hstep (not_lists_of_still he) (not_takesOut_of_still he)
      (not_shutsDown_of_still he) ?_ hlistings
    simp [IsActive, hslot, hfree]
  | failed task fault hmounting he hslot hlistings =>
    have hstill : e.isStill = true := by
      rw [he]
      rfl
    refine h.still hrun hstep (not_lists_of_still hstill) (not_takesOut_of_still hstill)
      (not_shutsDown_of_still hstill) ?_ hlistings
    simp [IsActive, hslot, hm.find?_of_isMounting hmounting]
  | activated task i hmounting he hslot hlistings =>
    have hidle : ¬ m.IsActive p := by simp [IsActive, hm.find?_of_isMounting hmounting]
    exact h.activated hrun hstep hidle ⟨i, hslot⟩ ⟨task, he, hmounting⟩ hlistings
  | takenOut task q i he hsame hslot hfree hholds hlistings =>
    have hidle : ¬ m'.IsActive p := by simp [IsActive, hfree]
    refine .takenOut hrun hstep ⟨⟨i, hslot⟩, task, q, he, hsame⟩ ?_ hidle hlistings
    rintro ⟨-, task', rfl⟩
    cases he
  | shutDown task i he hslot hfree hholds hlistings =>
    have hidle : ¬ m'.IsActive p := by simp [IsActive, hfree]
    refine h.shutDown hrun hstep ⟨⟨i, hslot⟩, task, he⟩ ?_ ?_ hidle hlistings
    · rintro ⟨task', rfl, -⟩
      cases he
    · rintro ⟨-, task', q, rfl, -⟩
      cases he

end Step

end Entries

theorem run_entries (h : (empty files).run fs s events = some m) (p : Path) :
    Entries fs s (empty files) events m p := by
  refine Run.foldlM_induction (P := fun events m => Entries fs s (empty files) events m p) ?_ ?_ h
  · have hnone : (empty files).listings p = 0 := rfl
    have hidle : ¬ (empty files).IsActive p := by simp [IsActive, empty, Slots.find?]
    refine ⟨iff_of_false (by omega) (not_or.mpr ⟨hidle, Run.not_since_nil⟩),
      iff_of_false (by omega) Run.not_followed_nil, fun hactive => absurd hactive hidle⟩
  · intro events m e m' hrun ih hstep
    exact ih.step hrun hstep (run_sound hrun)

/-! ## Listed twice -/

theorem listings_eq_count (m : Manager σ) (p : Path) :
    m.listings p = (m.mounts.map (·.point.key)).count p.key := by
  rw [listings, List.count, List.countP_map]
  refine List.countP_congr fun d _ => ?_
  rw [Path.same_iff_key, Function.comp_apply, beq_iff_eq]

theorem listedOnce_iff : m.ListedOnce ↔ ∀ p, m.listings p ≤ 1 := by
  have hkeys : m.ListedOnce ↔ (m.mounts.map (·.point.key)).Nodup := by
    rw [List.Nodup, List.pairwise_map, ListedOnce]
    simp only [Path.same_iff_key, ne_eq]
  rw [hkeys, List.nodup_iff_count_le_one]
  constructor
  · intro h p
    rw [listings_eq_count]
    exact h p.key
  · intro h key
    by_cases hmem : key ∈ m.mounts.map (·.point.key)
    · obtain ⟨d, -, rfl⟩ := List.mem_map.mp hmem
      rw [← listings_eq_count]
      exact h d.point
    · rw [List.count_eq_zero_of_not_mem hmem]
      exact Nat.zero_le 1

/-- Without a shutdown nothing is left behind. -/
theorem not_leftBehind (hevents : ∀ task, .shutDownAll task ∉ events) :
    ¬ LeftBehind fs s m events p := by
  rintro ⟨before, e, after, k, k', rfl, -, -, ⟨-, task, rfl⟩, -⟩
  exact hevents task (List.mem_append_right _ List.mem_cons_self)

/-- Every list that is saved was the list of mounts at some moment. -/
theorem exists_of_mem_savedLists {start : Manager σ} (h : start.run fs s events = some m) :
    ∀ list ∈ savedLists fs s start events,
      ∃ count m', start.run fs s (events.take count) = some m' ∧ list = m'.mounts := by
  refine Run.foldlM_induction (P := fun events _ => ∀ list ∈ savedLists fs s start events,
    ∃ count m', start.run fs s (events.take count) = some m' ∧ list = m'.mounts) ?_ ?_ h
  · intro list hlist
    cases hlist
  · intro events m e m' hrun ih hstep list hlist
    have hrun' : start.run fs s (events ++ [e]) = some m' :=
      Run.foldlM_append_of hrun (by simpa using hstep)
    rw [savedLists_concat hrun] at hlist
    rcases List.mem_append.mp hlist with hearlier | hlatest
    · obtain ⟨count, k, hk, hlist⟩ := ih list hearlier
      refine ⟨min count events.length, k, ?_, hlist⟩
      rw [List.take_append_of_le_length (Nat.min_le_right _ _), ← List.take_take, List.take_length]
      exact hk
    · obtain ⟨saved, hsaved, rfl⟩ := Option.map_eq_some_iff.mp (Option.mem_toList.mp hlatest)
      refine ⟨(events ++ [e]).length, m', by rw [List.take_length, hrun'], ?_⟩
      rcases (step_effect hstep).saves with ⟨hnone, -⟩ | ⟨k, hk, -, hmounts⟩
      · cases hnone.symm.trans hsaved
      · cases hk.symm.trans hsaved
        exact hmounts.symm

/-- A descriptor is mounted at a free mount point, and the list with it is saved. -/
theorem mount_of_free_lists (fs : FileSystem σ) (s : Setup) {target : Url}
    (hfree : m.slots.find? d.point = none) (hvalid : d.validate = .ok target)
    (hfresh : m.fresh ≤ task) : ∃ m',
      m.run fs s [.mount task d, .returned task (.ok ()), .activate task] = some m' ∧
        m'.mounts = m.mounts ++ [d] ∧
        savedLists fs s m [.mount task d, .returned task (.ok ()), .activate task] =
          [m'.mounts] := by
  obtain ⟨m₁, hmount, htask, hmounts₁⟩ : ∃ m₁, m.step fs s (.mount task d) = some m₁ ∧
      m₁.task? task = some (.mounting d target .single) ∧ m₁.mounts = m.mounts := by
    refine ⟨(({ m with
        fresh := task + 1
        slots := m.slots.insert d.point .pending } : Manager σ).callMounter task
          (.mount d)).await task (.mounting d target .single), ?_, task?_await _ _ _, rfl⟩
    simp only [step, begin, hfresh, if_true, Option.bind_some, bind, beginMount, hvalid, hfree]
    rfl
  obtain ⟨m₂, i, hreturn, htask, hmounts₂⟩ : ∃ m₂ i,
      m₁.step fs s (.returned task (.ok ())) = some m₂ ∧
        m₂.task? task = some (.activating d i .single) ∧ m₂.mounts = m₁.mounts := by
    refine ⟨m₁.attach s task d target .single, m₁.sessions.length, ?_, task?_await _ _ _, rfl⟩
    simp only [step, htask, Option.bind_some, bind, goOn]
  obtain ⟨m₃, hactivate, hmounts₃⟩ : ∃ m₃, m₂.step fs s (.activate task) = some m₃ ∧
      m₃.mounts = m₂.mounts ++ [d] := by
    refine ⟨m₂.activate fs s task d i .single, by simp only [step, htask], ?_⟩
    exact saveMounts_mounts
  have hlatest : m₃.mounts = m.mounts ++ [d] := by rw [hmounts₃, hmounts₂, hmounts₁]
  refine ⟨m₃, by simp [run, hmount, hreturn, hactivate], hlatest, ?_⟩
  simp [savedLists, saving?, hmount, hreturn, htask, hactivate, hmounts₃, enlist]

/-- A mount point is listed twice exactly where it was listed again after a shutdown took its session
out. Without a shutdown no mount point is, neither in what callers see nor in what is saved, since
both are the list of mounts. With one it can always happen: after a shutdown, a mount of a mount point
whose session was taken out is not refused, and the list with both entries is saved. -/
theorem listed_twice_iff (h : (empty files).run fs s events = some m) :
    (∀ p, 2 ≤ m.listings p ↔ ListedAgain fs s (empty files) events p) ∧
    ((∀ task, .shutDownAll task ∉ events) → m.ListedOnce) ∧
    m.statuses.map (·.1) = m.mounts ∧
    (∀ list ∈ savedLists fs s (empty files) events,
      ∃ count m', (empty files).run fs s (events.take count) = some m' ∧ list = m'.mounts) ∧
    (∀ task d target, m.IsActive d.point → d.validate = .ok target → m.fresh ≤ task →
      ∀ again, again = [.shutDownAll task, .mount (task + 1) d, .returned (task + 1) (.ok ()),
        .activate (task + 1)] → ∃ m', m.run fs s again = some m' ∧ ¬ m'.ListedOnce ∧
        savedLists fs s m again = [m'.mounts]) := by
  have hm := run_sound h
  refine ⟨fun p => (run_entries h p).twice, ?_, ?_, exists_of_mem_savedLists h, ?_⟩
  · intro hevents
    refine listedOnce_iff.mpr fun p => ?_
    by_contra htwice
    have hagain := (run_entries h p).twice.mp (Nat.lt_of_not_le htwice)
    exact not_leftBehind hevents hagain.since
  · rw [statuses, List.map_map]
    exact List.map_id _
  · rintro task d target ⟨i, hslot⟩ hvalid hfresh again rfl
    obtain ⟨m₁, hshut, hslots, hmounts, hnext⟩ : ∃ m₁, m.step fs s (.shutDownAll task) = some m₁ ∧
        m₁.slots = m.slots.pending ∧ m₁.mounts = m.mounts ∧ m₁.fresh = task + 1 := by
      refine ⟨({ m with fresh := task + 1, slots := m.slots.pending } : Manager σ).put task
        (stopNext m.slots.sessions), ?_, put_slots _, put_mounts _, put_fresh _⟩
      simp only [step, begin, hfresh, if_true, Option.bind_some, bind, continueStop_eq]
    have hfree : m₁.slots.find? d.point = none := by
      rw [hslots]
      exact hm.find?_pending hslot
    obtain ⟨m₂, hrun, hlisted, hsaved⟩ :=
      mount_of_free_lists fs s hfree hvalid (Nat.le_of_eq hnext)
    refine ⟨m₂, by simpa [run, hshut] using hrun, ?_, ?_⟩
    · have hone : 1 ≤ m.listings d.point := (run_entries h d.point).listed.mpr (Or.inl ⟨i, hslot⟩)
      have htwo : m₂.listings d.point = m.listings d.point + 1 := by
        rw [listings, listings, hlisted, hmounts, List.countP_append, List.countP_singleton,
          if_pos (Path.same_refl d.point)]
      rw [listedOnce_iff]
      intro honce
      have := honce d.point
      omega
    · rw [savedLists, hshut]
      simpa [saving?] using hsaved

theorem listed_twice_sample : ∃ m m' : Manager Files,
    (empty ⟨[]⟩).run Files.system plainSetup sampleMount = some m ∧ m.ListedOnce ∧
      m.run Files.system plainSetup [.shutDownAll 1, .mount 2 sample, .returned 2 (.ok ()),
        .activate 2] = some m' ∧ ¬ m'.ListedOnce := by
  obtain ⟨m, hrun, hslot, hfresh, target, hvalid⟩ := sampleMount_run
  obtain ⟨-, honce, -, -, hagain⟩ := listed_twice_iff hrun
  obtain ⟨m', hrun', htwice, -⟩ :=
    hagain 1 sample target ⟨0, hslot⟩ hvalid (Nat.le_of_eq hfresh) _ rfl
  exact ⟨m, m', hrun, honce (by simp [sampleMount]), hrun', htwice⟩

/-- No run leads to two entries that name one mount point. -/
def AlwaysListedOnce (fs : FileSystem σ) (s : Setup) : Prop :=
  ∀ files events m, (empty files).run fs s events = some m → m.ListedOnce

/-- A descriptor is mounted, all sessions are shut down, and it is mounted again. Each operation is
over before the next one begins. -/
def sampleRemount : List ManagerEvent :=
  sampleMount ++ [.session 0 .serve, .shutDownAll 1, .stop 1 0, .returned 1 (.ok ()),
    .session 0 .stop, .session 0 .drained, .join 1] ++
    [.mount 2 sample, .returned 2 (.ok ()), .activate 2]

/-- Mount points can be listed twice. -/
theorem not_alwaysListedOnce : ¬ AlwaysListedOnce Files.system plainSetup := by
  intro honce
  obtain ⟨m, hrun, hmounts, -⟩ : ∃ m : Manager Files,
      (empty ⟨[]⟩).run Files.system plainSetup sampleRemount = some m ∧
        m.mounts = [sample, sample] ∧ m.tasks = [] := ⟨_, rfl, rfl, rfl⟩
  have hpairwise := honce ⟨[]⟩ sampleRemount m hrun
  rw [ListedOnce, hmounts] at hpairwise
  exact (List.pairwise_cons.mp hpairwise).1 sample List.mem_cons_self (Path.same_refl _)

end Manager

end FsGateway.Gateway
