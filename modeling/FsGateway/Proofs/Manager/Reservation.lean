import FsGateway.Proofs.Manager.FailedMount
import FsGateway.Proofs.Manager.MountPoint

/-!
# Who has reserved a mount point

A mount point with a pending slot has been reserved by one operation: one that has found it free and
has neither activated a session there nor failed since. So of mounts that overlap, one at most goes
past the check.

* `isMounting_iff`: the operations that mount a mount point, by what has happened.
* `find?_eq_pending_iff`: a slot is pending exactly where one operation has reserved it.
* `refused_of_beginsDuring`: a mount is refused while another one of its mount point is in progress.
-/

namespace FsGateway.Gateway

open Mount (Path Descriptor Fault FileSystem Table)

/-- The operation that an event belongs to. -/
def ManagerEvent.task? : ManagerEvent → Option TaskId
  | .mount task _ | .unmount task _ | .restore task | .shutDownAll task | .returned task _
  | .activate task | .join task | .save task | .stop task _ => some task
  | .session .. | .elapse _ => none

theorem Starts.task? {task : TaskId} {e : ManagerEvent} {old : Option Task} {d : Descriptor}
    {purpose : Purpose} (h : Starts task e old d purpose) : e.task? = some task := by
  cases h <;> rfl

/-- Whether an operation is a mount of a descriptor that has passed the check. -/
inductive Task.Mounts (d : Descriptor) : Task → Prop
  | mounting (target : Url) : Mounts d (.mounting d target .single)
  | activating (i : SessionId) : Mounts d (.activating d i .single)

theorem Task.Mounts.point? {t : Task} {d : Descriptor} (h : t.Mounts d) :
    t.point? = some d.point := by
  cases h <;> rfl

namespace Manager

variable {σ : Type} {fs : FileSystem σ} {s : Setup} {m m' m₁ k : Manager σ} {files : σ}
  {events : List ManagerEvent} {e : ManagerEvent} {task task' : TaskId} {old : Option Task}
  {next : Next} {d : Descriptor} {p q : Path}

/-! ## Turns -/

theorem EndsMount.task? (h : EndsMount task e) : e.task? = some task := by
  rcases h with rfl | ⟨fault, rfl⟩ <;> rfl

theorem Turn.task? (h : Turn fs s m task e old m₁ next) : e.task? = some task := by
  cases h with
  | refused hstarts hbars => exact hstarts.task?
  | reserved hstarts hvalid hfree => exact hstarts.task?
  | _ => rfl

@[simp] theorem task?_put (m : Manager σ) (task : TaskId) (next : Next) :
    (m.put task next).task? task = next.task? := by
  cases next with
  | wait t => exact task?_await m task t
  | ended r =>
    have hgone := Keyed.lookup_filter (fun k => decide (k ≠ task)) task m.tasks
    simpa [put, complete, Manager.task?, Next.task?] using hgone

theorem task?_put_ne (next : Next) (h : task' ≠ task) :
    (m.put task next).task? task' = m.task? task' := by
  have hstays := Keyed.lookup_filter (fun k => decide (k ≠ task)) task' m.tasks
  have hne : (task' == task) = false := beq_false_of_ne h
  have hnew : (next.task?.toList.map (task, ·)).lookup task' = none := by
    cases next with
    | wait t =>
      rw [Next.task?, Option.toList_some, List.map_singleton, List.lookup_cons, hne]
      rfl
    | ended r => rfl
  rw [Manager.task?, put_tasks, List.lookup_append, others, hstays, hnew, Option.or_none]
  simp [Manager.task?, h]

/-- What a turn does to the mount point that its operation has reserved. -/
theorem Turn.point? (h : Turn fs s m task e old m₁ next) :
    next.task?.bind Task.point? = some q ↔
      (∃ d purpose target, Starts task e old d purpose ∧ d.validate = .ok target ∧
        m.slots.find? d.point = none ∧ d.point = q) ∨
      old.bind Task.point? = some q ∧ ¬ EndsMount task e := by
  -- where an operation neither starts to mount nor waits for it, it holds no mount point
  have hnone : next.task?.bind Task.point? = none → (∀ d purpose, ¬ Starts task e old d purpose) →
      (old.bind Task.point? = some q → EndsMount task e) → (next.task?.bind Task.point? = some q ↔
        (∃ d purpose target, Starts task e old d purpose ∧ d.validate = .ok target ∧
          m.slots.find? d.point = none ∧ d.point = q) ∨
        old.bind Task.point? = some q ∧ ¬ EndsMount task e) := by
    intro hnext hstarts hends
    refine iff_of_false (by simp [hnext]) ?_
    rintro (⟨d, purpose, target, hstart, -⟩ | ⟨hold, hnot⟩)
    · exact hstarts d purpose hstart
    · exact hnot (hends hold)
  have hstop : ∀ rest, (stopNext rest).task?.bind Task.point? = none := by
    intro rest
    unfold stopNext
    split <;> rfl
  cases h with
  | @refused e old d purpose fault hstarts hbars =>
    refine iff_of_false (by simp [Next.task?]) ?_
    rintro (⟨d', purpose', target, hstarts', hvalid, hfree, -⟩ | ⟨hold, -⟩)
    · obtain rfl : d' = d := by cases hstarts <;> cases hstarts' <;> rfl
      cases hbars with
      | invalid hfault => cases hfault.symm.trans hvalid
      | taken hok htaken => simp [hfree] at htaken
    · cases hstarts <;> cases hold
  | @reserved e old d purpose target hstarts hvalid hfree =>
    have hnext : (Next.wait (.mounting d target purpose)).task?.bind Task.point? = some q ↔
        d.point = q := by simp [Next.task?, Task.point?]
    rw [hnext]
    constructor
    · intro hq
      exact Or.inl ⟨d, purpose, target, hstarts, hvalid, hfree, hq⟩
    · rintro (⟨d', purpose', target', hstarts', -, -, hq⟩ | ⟨hold, -⟩)
      · cases hstarts <;> cases hstarts' <;> exact hq
      · cases hstarts <;> cases hold
  | attached =>
    have hends : ¬ EndsMount task (.returned task (.ok ())) := by
      rintro (he | ⟨fault, he⟩) <;> cases he
    constructor
    · intro hnext
      exact Or.inr ⟨hnext, hends⟩
    · rintro (⟨d', purpose', target', hstarts, -⟩ | ⟨hold, -⟩)
      · cases hstarts
      · exact hold
  | released => exact hnone rfl (fun _ _ h => by cases h) fun _ => Or.inr ⟨_, rfl⟩
  | listed => exact hnone rfl (fun _ _ h => by cases h) fun _ => Or.inl rfl
  | relisted hrest =>
    refine hnone ?_ (fun _ _ h => by cases h) fun _ => Or.inl rfl
    cases hrest <;> rfl
  | loaded ht hload hrest =>
    refine hnone ?_ (fun _ _ h => by cases h) fun h => by cases h
    cases hrest <;> rfl
  | allTakenOut => exact hnone (hstop _) (fun _ _ h => by cases h) fun h => by cases h
  | @joined i l result sequel hl hphase =>
    refine hnone ?_ (fun _ _ h => by cases h) fun h => by cases h
    cases sequel with
    | save => rfl
    | stopMore rest => exact hstop rest
  | _ => exact hnone rfl (fun _ _ h => by cases h) fun h => by cases h

/-- An event is a turn of one operation, or operations and slots stay as they are. -/
theorem Effect.turn_or_apart (hm : Sound m) (h : Effect fs s m e m') :
    (∃ fresh task m₁ next, m.fresh ≤ fresh ∧ task < fresh ∧
      (m.task? task = none → m.fresh ≤ task) ∧
      Turn fs s { m with fresh := fresh } task e (m.task? task) m₁ next ∧
      m' = m₁.put task next) ∨
    (e.task? = none ∧ Apart m m' ∧ m'.fresh = m.fresh ∧
      m'.sessions.length = m.sessions.length) := by
  cases h with
  | @begun e task m₁ next hfresh hturn =>
    rw [← hm.task?_of_fresh hfresh] at hturn
    exact Or.inl ⟨task + 1, task, m₁, next, Nat.le_succ_of_le hfresh, Nat.lt_succ_self _,
      fun _ => hfresh, hturn, rfl⟩
  | @resumed e task old m₁ next hold hturn =>
    have hnew : m.task? task = none → m.fresh ≤ task := fun hnone => by cases hnone.symm.trans hold
    rw [← hold] at hturn
    exact Or.inl ⟨m.fresh, task, m₁, next, Nat.le_refl _, hm.below _ (mem_of_task? hold), hnew,
      hturn, rfl⟩
  | session hfree hl hk =>
    exact Or.inr ⟨rfl, ⟨rfl, rfl, rfl, rfl, rfl⟩, rfl, List.length_set⟩
  | elapsed duration => exact Or.inr ⟨rfl, ⟨rfl, rfl, rfl, rfl, rfl⟩, rfl, List.length_map _⟩

/-- The operations besides that of a turn stay where they are. -/
theorem Turn.task?_put_ne {fresh : TaskId} (h : Turn fs s { m with fresh := fresh } task e old m₁ next)
    (hne : task' ≠ task) : (m₁.put task next).task? task' = m.task? task' := by
  rw [Manager.task?_put_ne next hne, Manager.task?, h.frame.1]
  rfl

/-! ## Reservations -/

theorem isMounting_iff_bind : m.IsMounting task p ↔
    ∃ q, (m.task? task).bind Task.point? = some q ∧ q.same p = true := by
  constructor
  · rintro ⟨t, q, htask, hq, hsame⟩
    exact ⟨q, by rw [htask, Option.bind_some, hq], hsame⟩
  · rintro ⟨q, hbind, hsame⟩
    obtain ⟨t, htask, hq⟩ := Option.bind_eq_some_iff.mp hbind
    exact ⟨t, q, htask, hq, hsame⟩

/-- An operation mounts a mount point from the check that it passes until it activates a session there
or fails. -/
theorem Effect.isMounting_iff (hm : Sound m) (h : Effect fs s m e m') :
    m'.IsMounting task p ↔
      m.PassesCheck task p e ∨ m.IsMounting task p ∧ ¬ EndsMount task e := by
  -- an event of another operation, or of none, leaves this one where it is
  have hother : e.task? ≠ some task → m'.task? task = m.task? task → (m'.IsMounting task p ↔
      m.PassesCheck task p e ∨ m.IsMounting task p ∧ ¬ EndsMount task e) := by
    intro he hsame
    have hcheck : ¬ m.PassesCheck task p e := by
      rintro ⟨d, purpose, target, hstarts, -⟩
      exact he hstarts.task?
    have hends : ¬ EndsMount task e := fun hends => he hends.task?
    simp only [IsMounting, hsame, hcheck, hends, false_or, not_false_eq_true, and_true]
  rcases h.turn_or_apart hm with
    ⟨fresh, task₀, m₁, next, -, -, -, hturn, rfl⟩ | ⟨he, hsame, -⟩
  · by_cases htask : task = task₀
    · subst htask
      rw [isMounting_iff_bind, task?_put]
      constructor
      · rintro ⟨q, hnext, hsame⟩
        rcases hturn.point?.mp hnext with ⟨d, purpose, target, hstarts, hvalid, hfree, rfl⟩ |
          ⟨hold, hends⟩
        · exact Or.inl ⟨d, purpose, target, hstarts, hvalid, hfree, hsame⟩
        · exact Or.inr ⟨isMounting_iff_bind.mpr ⟨q, hold, hsame⟩, hends⟩
      · rintro (⟨d, purpose, target, hstarts, hvalid, hfree, hsame⟩ | ⟨hmounting, hends⟩)
        · exact ⟨d.point, hturn.point?.mpr
            (Or.inl ⟨d, purpose, target, hstarts, hvalid, hfree, rfl⟩), hsame⟩
        · obtain ⟨q, hold, hsame⟩ := isMounting_iff_bind.mp hmounting
          exact ⟨q, hturn.point?.mpr (Or.inr ⟨hold, hends⟩), hsame⟩
    · refine hother ?_ (hturn.task?_put_ne htask)
      rw [hturn.task?]
      exact fun heq => htask (Option.some.inj heq).symm
  · refine hother (by simp [he]) ?_
    rw [Manager.task?, hsame.tasks]
    rfl

/-- An operation has passed the check for a mount point, and has neither activated a session there nor
failed since. -/
def HasReserved (fs : FileSystem σ) (s : Setup) (m : Manager σ) (events : List ManagerEvent)
    (task : TaskId) (p : Path) : Prop :=
  Run.Since (step fs s) m events (fun m e => m.PassesCheck task p e) fun _ e => EndsMount task e

theorem isMounting_iff (h : (empty files).run fs s events = some m) :
    m.IsMounting task p ↔ HasReserved fs s (empty files) events task p := by
  refine Run.foldlM_induction (P := fun events m => m.IsMounting task p ↔
    HasReserved fs s (empty files) events task p) ?_ ?_ h
  · refine iff_of_false ?_ Run.not_since_nil
    rintro ⟨t, q, htask, -⟩
    cases htask
  · intro events m e m' hrun ih hstep
    rw [(step_effect hstep).isMounting_iff (run_sound hrun), HasReserved,
      Run.since_concat_iff hrun hstep, ih, HasReserved]

/-- A slot is pending exactly where one operation has reserved the mount point. -/
theorem find?_eq_pending_iff (h : (empty files).run fs s events = some m) :
    m.slots.find? p = some .pending ↔
      ∃! task, HasReserved fs s (empty files) events task p := by
  have hm := run_sound h
  constructor
  · intro hslot
    obtain ⟨task, hmounting⟩ := hm.isMounting_of_find? hslot
    refine ⟨task, (isMounting_iff h).mp hmounting, fun task' hreserved => ?_⟩
    exact hm.eq_of_isMounting ((isMounting_iff h).mpr hreserved) hmounting
  · rintro ⟨task, hreserved, -⟩
    exact hm.find?_of_isMounting ((isMounting_iff h).mpr hreserved)

/-! ## Mounts that overlap -/

/-- A mount of a descriptor has used its number, and if it still waits, it has passed the check. -/
def Began (m : Manager σ) (task : TaskId) (d : Descriptor) : Prop :=
  task < m.fresh ∧ ∀ t, m.task? task = some t → t.Mounts d

theorem Turn.mounts_of_mounts {t t' : Task} (h : Turn fs s m task e (some t) m₁ next)
    (ht : t.Mounts d) (hnext : next.task? = some t') : t'.Mounts d := by
  cases ht with
  | mounting target =>
    cases h with
    | refused hstarts hbars => cases hnext
    | reserved hstarts hvalid hfree => cases hstarts
    | attached =>
      cases hnext
      exact .activating _
    | released => cases hnext
  | activating i =>
    cases h with
    | refused hstarts hbars => cases hnext
    | reserved hstarts hvalid hfree => cases hstarts
    | listed => cases hnext

theorem Effect.began_of_mount (hm : Sound m) (h : Effect fs s m (.mount task d) m') :
    m'.Began task d := by
  rcases h.turn_or_apart hm with ⟨fresh, task₀, m₁, next, -, hlt, -, hturn, rfl⟩ | ⟨he, -⟩
  · have htask : task = task₀ := Option.some.inj hturn.task?
    subst htask
    refine ⟨?_, ?_⟩
    · rw [put_fresh, hturn.frame.2]
      exact hlt
    · rw [task?_put]
      intro t hnext
      generalize m.task? task = old at hturn
      cases hturn with
      | refused hstarts hbars => cases hnext
      | reserved hstarts hvalid hfree =>
        cases hstarts
        cases hnext
        exact .mounting _
  · cases he

theorem Effect.began (hm : Sound m) (h : Effect fs s m e m') (hbegan : m.Began task d) :
    m'.Began task d := by
  obtain ⟨hused, hwaits⟩ := hbegan
  rcases h.turn_or_apart hm with ⟨fresh, task₀, m₁, next, hle, -, hnew, hturn, rfl⟩ |
    ⟨-, hsame, hfresh, -⟩
  · refine ⟨?_, ?_⟩
    · rw [put_fresh, hturn.frame.2]
      exact Nat.lt_of_lt_of_le hused hle
    · by_cases htask : task = task₀
      · subst htask
        rw [task?_put]
        intro t hnext
        cases hold : m.task? task with
        | none => exact absurd (hnew hold) (Nat.not_le.mpr hused)
        | some t₀ =>
          rw [hold] at hturn
          exact hturn.mounts_of_mounts (hwaits t₀ hold) hnext
      · rw [hturn.task?_put_ne htask]
        exact hwaits
  · refine ⟨by rw [hfresh]; exact hused, ?_⟩
    rw [Manager.task?, hsame.tasks]
    exact hwaits

theorem run_began (h : (empty files).run fs s events = some m) (hmount : .mount task d ∈ events) :
    m.Began task d := by
  refine Run.foldlM_induction (P := fun events m => .mount task d ∈ events → m.Began task d)
    ?_ ?_ h hmount
  · intro hmount
    cases hmount
  · intro events m e m' hrun ih hstep hmount
    have hm := run_sound hrun
    rcases List.mem_append.mp hmount with hearlier | hlast
    · exact (step_effect hstep).began hm (ih hearlier)
    · cases List.mem_singleton.mp hlast
      exact (step_effect hstep).began_of_mount hm

/-- A mount was refused, because its mount point was taken. -/
def Refused (m : Manager σ) (c : TaskId × Descriptor) : Prop :=
  (c.1, .error (.alreadyMounted c.2.point)) ∈ m.results

theorem Turn.results (h : Turn fs s m task e old m₁ next) : m₁.results = m.results := by
  cases h with
  | listed => exact saveMounts_results
  | relisted hrest => cases hrest <;> rfl
  | loaded ht hload hrest => cases hrest <;> rfl
  | saved => exact saveMounts_results
  | _ => rfl

theorem Effect.refused {c : TaskId × Descriptor} (hm : Sound m) (h : Effect fs s m e m')
    (hrefused : m.Refused c) : m'.Refused c := by
  rcases h.turn_or_apart hm with ⟨fresh, task, m₁, next, -, -, -, hturn, rfl⟩ | ⟨-, hsame, -⟩
  · have hstays : m₁.Refused c := by
      rw [Refused, hturn.results]
      exact hrefused
    cases next with
    | wait t => exact hstays
    | ended r => exact List.mem_append_left _ hstays
  · rw [Refused, hsame.results]
    exact hrefused

/-- One mount begins while another one is in progress. -/
def BeginsDuring (fs : FileSystem σ) (s : Setup) (m : Manager σ) (events : List ManagerEvent)
    (a b : TaskId × Descriptor) : Prop :=
  ∃ before after k, events = before ++ .mount b.1 b.2 :: after ∧ m.run fs s before = some k ∧
    .mount a.1 a.2 ∈ before ∧ (k.task? a.1).isSome = true

/-- A mount is refused that begins while another one of its mount point is in progress. -/
theorem refused_of_beginsDuring {a b : TaskId × Descriptor} {target : Url}
    (h : (empty files).run fs s events = some m) (hvalid : b.2.validate = .ok target)
    (hpoint : a.2.point.same b.2.point = true)
    (hduring : BeginsDuring fs s (empty files) events a b) : m.Refused b := by
  obtain ⟨before, after, k, rfl, hk, hbegan, hwaits⟩ := hduring
  obtain ⟨t, htask⟩ := Option.isSome_iff_exists.mp hwaits
  have hmounts := (run_began hk hbegan).2 t htask
  have hslot : k.slots.find? b.2.point = some .pending :=
    (run_sound hk).find?_of_isMounting ⟨t, _, htask, hmounts.point?, hpoint⟩
  obtain ⟨k', hk', hrest⟩ := Run.foldlM_append_eq_some h
  cases hk.symm.trans hk'
  rw [List.foldlM_cons] at hrest
  obtain ⟨k₁, hstep, hrest⟩ := Option.bind_eq_some_iff.mp hrest
  have hfirst : k₁.Refused b := by
    obtain ⟨k₂, hstep', hresults⟩ :=
      mount_of_taken fs s hslot hvalid (begin_bind_eq_some hstep).1
    cases hstep.symm.trans hstep'
    rw [Refused, hresults]
    exact List.mem_append_right _ List.mem_cons_self
  have hsound : Sound k₁ := (run_sound hk).effect (step_effect hstep)
  refine (Run.foldlM_keeps (P := fun m => Sound m ∧ m.Refused b) ?_ ⟨hsound, hfirst⟩ hrest).2
  rintro m e m' ⟨hm, hrefused⟩ hstep
  exact ⟨hm.effect (step_effect hstep), (step_effect hstep).refused hm hrefused⟩

end Manager

end FsGateway.Gateway
