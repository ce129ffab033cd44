import FsGateway.Proofs.Manager.Ownership

/-!
# What happens at a mount point

A mount point goes through a cycle: it is free, an operation reserves it, the operation activates a
session there or fails, and the session is taken out again. This module says once which events move a
mount point on, and what they do to its entries in the list of mounts.

* `PassesCheck`, `IsMounting`: how an operation comes to hold a reservation, and that it holds one.
* `AtPoint`: what an event can do at a mount point. `Effect.atPoint`: an event does nothing else.
-/

namespace FsGateway.Gateway

open Mount (Path Descriptor Fault FileSystem Table)

/-- Only an activation, an unmount or a shutdown adds an entry or takes a session out. -/
def ManagerEvent.isStill : ManagerEvent → Bool
  | .activate _ | .unmount .. | .shutDownAll _ => false
  | _ => true

theorem Starts.isStill {task : TaskId} {e : ManagerEvent} {old : Option Task} {d : Descriptor}
    {purpose : Purpose} (h : Starts task e old d purpose) : e.isStill = true := by
  cases h <;> rfl

namespace Manager

variable {σ : Type} {fs : FileSystem σ} {s : Setup} {m m' m₁ : Manager σ} {task task' : TaskId}
  {e : ManagerEvent} {old : Option Task} {next : Next} {p q : Path} {i : SessionId}

/-! ## Slots and entries -/

/-- A session is attached to a mount point. -/
def IsActive (m : Manager σ) (p : Path) : Prop := ∃ i, m.slots.find? p = some (.active i)

/-- How many entries of the list of mounts name a mount point. -/
def listings (m : Manager σ) (p : Path) : Nat := m.mounts.countP fun d => d.point.same p

/-- An operation waits to mount a mount point, or to activate the session that was attached. -/
def IsMounting (m : Manager σ) (task : TaskId) (p : Path) : Prop :=
  ∃ t q, m.task? task = some t ∧ t.point? = some q ∧ q.same p = true

theorem Sound.find?_of_isMounting (hm : Sound m) (h : m.IsMounting task p) :
    m.slots.find? p = some .pending := by
  obtain ⟨t, q, htask, hpoint, hsame⟩ := h
  have hreserved : q ∈ m.slots.reserved :=
    hm.reserved.mem_iff.mpr (List.mem_filterMap.mpr ⟨(task, t), mem_of_task? htask, hpoint⟩)
  exact Slots.find?_of_mem hm.distinct (Slots.mem_reserved_iff.mp hreserved)
    (Path.same_iff_key.mp hsame)

theorem Sound.isMounting_of_find? (hm : Sound m) (h : m.slots.find? p = some .pending) :
    ∃ task, m.IsMounting task p := by
  obtain ⟨q, hq, hkey⟩ := Slots.mem_of_find? h
  have hpoint := hm.reserved.mem_iff.mp (Slots.mem_reserved_iff.mpr hq)
  obtain ⟨⟨task, t⟩, hmem, ht⟩ := List.mem_filterMap.mp hpoint
  exact ⟨task, t, q, hm.task?_of_mem hmem, ht, Path.same_iff_key.mpr hkey⟩

theorem Sound.eq_of_isMounting (hm : Sound m) (h : m.IsMounting task p)
    (h' : m.IsMounting task' p) : task = task' := by
  obtain ⟨t, q, htask, hpoint, hsame⟩ := h
  obtain ⟨t', q', htask', hpoint', hsame'⟩ := h'
  have hkey : q.key = q'.key :=
    (Path.same_iff_key.mp hsame).trans (Path.same_iff_key.mp hsame').symm
  exact congrArg Prod.fst
    (hm.eq_of_point (mem_of_task? htask) (mem_of_task? htask') hpoint hpoint' hkey)

/-! ## Events at a mount point -/

/-- An operation is about to mount a valid descriptor, by itself or to restore it, and its mount point
is free. -/
def PassesCheck (m : Manager σ) (task : TaskId) (p : Path) (e : ManagerEvent) : Prop :=
  ∃ d purpose target, Starts task e (m.task? task) d purpose ∧ d.validate = .ok target ∧
    m.slots.find? d.point = none ∧ d.point.same p = true

/-- An operation activates its session, or the mounter has failed it. -/
def EndsMount (task : TaskId) (e : ManagerEvent) : Prop :=
  e = .activate task ∨ ∃ fault, e = .returned task (.error fault)

/-- An entry for a mount point is added to the list of mounts. -/
def Lists (m : Manager σ) (p : Path) (e : ManagerEvent) : Prop :=
  ∃ task, e = .activate task ∧ m.IsMounting task p

/-- The session of a mount point is taken out to be unmounted. -/
def TakesOut (m : Manager σ) (p : Path) (e : ManagerEvent) : Prop :=
  m.IsActive p ∧ ∃ task q, e = .unmount task q ∧ q.same p = true

/-- The session of a mount point is taken out by a shutdown. -/
def ShutsDown (m : Manager σ) (p : Path) (e : ManagerEvent) : Prop :=
  m.IsActive p ∧ ∃ task, e = .shutDownAll task

theorem not_lists_of_still (he : e.isStill = true) : ¬ m.Lists p e := by
  rintro ⟨task, rfl, -⟩
  cases he

theorem not_takesOut_of_still (he : e.isStill = true) : ¬ m.TakesOut p e := by
  rintro ⟨-, task, q, rfl, -⟩
  cases he

theorem not_shutsDown_of_still (he : e.isStill = true) : ¬ m.ShutsDown p e := by
  rintro ⟨-, task, rfl⟩
  cases he

/-- What an event can do at a mount point. -/
inductive AtPoint (m m' : Manager σ) (p : Path) (e : ManagerEvent) : Prop
  | kept : ¬ m.Lists p e → ¬ m.TakesOut p e → ¬ m.ShutsDown p e →
      m'.slots.find? p = m.slots.find? p → m'.listings p = m.listings p → AtPoint m m' p e
  | reserved (task : TaskId) : m.PassesCheck task p e → m.slots.find? p = none →
      m'.slots.find? p = some .pending → m'.listings p = m.listings p → AtPoint m m' p e
  | failed (task : TaskId) (fault : Fault) : m.IsMounting task p →
      e = .returned task (.error fault) → m'.slots.find? p = none →
      m'.listings p = m.listings p → AtPoint m m' p e
  | activated (task : TaskId) (i : SessionId) : m.IsMounting task p → e = .activate task →
      m'.slots.find? p = some (.active i) → m'.listings p = m.listings p + 1 → AtPoint m m' p e
  | takenOut (task : TaskId) (q : Path) (i : SessionId) : e = .unmount task q → q.same p = true →
      m.slots.find? p = some (.active i) → m'.slots.find? p = none →
      (∃ t, (task, t) ∈ m'.tasks ∧ i ∈ t.sessions) → m'.listings p = 0 → AtPoint m m' p e
  | shutDown (task : TaskId) (i : SessionId) : e = .shutDownAll task →
      m.slots.find? p = some (.active i) → m'.slots.find? p = none →
      (∃ t, (task, t) ∈ m'.tasks ∧ i ∈ t.sessions) → m'.listings p = m.listings p →
      AtPoint m m' p e

/-- An unmount drops every entry of its mount point. -/
theorem listings_filter_self {mounts : List Descriptor} (h : q.same p = true) :
    (mounts.filter fun d => !d.point.same q).countP (fun d => d.point.same p) = 0 := by
  rw [List.countP_eq_zero]
  intro d hd hp
  have hq : d.point.same q = true := Path.same_trans hp (Path.same_symm h)
  simp [hq] at hd

theorem listings_filter_ne {mounts : List Descriptor} (h : ¬ q.same p = true) :
    (mounts.filter fun d => !d.point.same q).countP (fun d => d.point.same p) =
      mounts.countP (fun d => d.point.same p) := by
  rw [List.countP_filter]
  refine List.countP_congr fun d _ => ?_
  have hne : d.point.same p = true → d.point.same q = false := by
    intro hp
    rw [← Bool.not_eq_true]
    exact fun hq => h (Path.same_trans (Path.same_symm hq) hp)
  rw [Bool.and_eq_true, Bool.not_eq_true']
  exact ⟨fun h => h.1, fun hp => ⟨hp, hne hp⟩⟩

theorem AtPoint.of_still (he : e.isStill = true) (hslot : m'.slots.find? p = m.slots.find? p)
    (hlistings : m'.listings p = m.listings p) : AtPoint m m' p e :=
  .kept (not_lists_of_still he) (not_takesOut_of_still he) (not_shutsDown_of_still he) hslot
    hlistings

theorem listings_enlist (m : Manager σ) (d : Descriptor) (i : SessionId) (p : Path) :
    (m.enlist d i).listings p = m.listings p + if d.point.same p = true then 1 else 0 := by
  rw [listings, enlist, List.countP_append, List.countP_singleton]
  rfl

/-- A session is activated at its mount point, and nothing happens at the others. -/
theorem atPoint_enlist {d : Descriptor} {purpose : Purpose}
    (hold : m.task? task = some (.activating d i purpose))
    (hslots : m'.slots = (m.enlist d i).slots) (hmounts : m'.mounts = (m.enlist d i).mounts) :
    AtPoint m m' p (.activate task) := by
  have hlistings : m'.listings p = m.listings p + if d.point.same p = true then 1 else 0 := by
    rw [← listings_enlist m d i p, listings, listings, hmounts]
  by_cases hsame : d.point.same p = true
  · refine .activated task i ⟨_, _, hold, rfl, hsame⟩ rfl ?_ ?_
    · rw [hslots]
      exact Slots.find?_insert (Path.same_symm hsame)
    · rw [hlistings, if_pos hsame]
  · refine .kept ?_ ?_ ?_ ?_ ?_
    · rintro ⟨task', he, t, q, ht, hq, hqp⟩
      cases he
      cases hold.symm.trans ht
      cases hq
      exact hsame hqp
    · rintro ⟨-, task', q, he, -⟩
      cases he
    · rintro ⟨-, task', he⟩
      cases he
    · rw [hslots]
      exact Slots.find?_insert_ne fun hkey => hsame (Path.same_iff_key.mpr hkey.symm)
    · rw [hlistings, if_neg hsame, Nat.add_zero]

/-- The session of a mount point is taken out, and nothing happens at the others. -/
theorem atPoint_takenOut (hactive : m.slots.find? q = some (.active i))
    (hslots : m'.slots = m.slots.erase q)
    (hmounts : m'.mounts = m.mounts.filter fun d => !d.point.same q)
    (hholds : ∃ t, (task, t) ∈ m'.tasks ∧ i ∈ t.sessions) :
    AtPoint m m' p (.unmount task q) := by
  by_cases hsame : q.same p = true
  · have hkey := Path.same_iff_key.mp hsame
    refine .takenOut task q i rfl hsame ?_ ?_ hholds ?_
    · rw [← Slots.find?_congr hkey, hactive]
    · rw [hslots, Slots.find?_erase_self hkey.symm]
    · rw [listings, hmounts, listings_filter_self hsame]
  · refine .kept ?_ ?_ ?_ ?_ ?_
    · rintro ⟨task', he, -⟩
      cases he
    · rintro ⟨-, task', q', he, hsame'⟩
      cases he
      exact hsame hsame'
    · rintro ⟨-, task', he⟩
      cases he
    · rw [hslots, Slots.find?_erase_ne fun hkey => hsame (Path.same_iff_key.mpr hkey.symm)]
    · rw [listings, hmounts, listings_filter_ne hsame]
      rfl

/-- A shutdown takes out the session of a mount point, if there is one. -/
theorem atPoint_shutDown (hm : Sound m) (hslots : m'.slots = m.slots.pending)
    (hmounts : m'.mounts = m.mounts)
    (hholds : ∀ i ∈ m.slots.sessions, ∃ t, (task, t) ∈ m'.tasks ∧ i ∈ t.sessions) :
    AtPoint m m' p (.shutDownAll task) := by
  have hlistings : m'.listings p = m.listings p := by rw [listings, listings, hmounts]
  have hfind := Slots.find?_pending hm.distinct p
  rw [← hslots] at hfind
  have hkept : ¬ m.IsActive p → m'.slots.find? p = m.slots.find? p →
      AtPoint m m' p (.shutDownAll task) := by
    intro hactive hsame
    refine .kept ?_ (fun h => hactive h.1) (fun h => hactive h.1) hsame hlistings
    rintro ⟨task', he, -⟩
    cases he
  cases hslot : m.slots.find? p with
  | none =>
    rw [hslot] at hfind
    exact hkept (by simp [IsActive, hslot]) (hfind.trans hslot.symm)
  | some slot =>
    rw [hslot] at hfind
    cases slot with
    | pending => exact hkept (by simp [IsActive, hslot]) (hfind.trans hslot.symm)
    | active i =>
      obtain ⟨q, hq, -⟩ := Slots.mem_of_find? hslot
      exact .shutDown task i rfl hslot hfind (hholds i (Slots.mem_sessions_iff.mpr ⟨q, hq⟩))
        hlistings

/-- A turn does nothing else at a mount point. -/
theorem Turn.atPoint (hm : Sound m) (hold : m.task? task = old)
    (h : Turn fs s m task e old m₁ next) (p : Path) : AtPoint m (m₁.put task next) p e := by
  have hlistings : m₁.mounts = m.mounts → (m₁.put task next).listings p = m.listings p := by
    intro hmounts
    rw [listings, put_mounts, hmounts]
    rfl
  cases h with
  | refused hstarts hbars => exact .of_still hstarts.isStill (by rw [put_slots]) (hlistings rfl)
  | @reserved e old d purpose target hstarts hvalid hfree =>
    have hslots : (((({ m with slots := m.slots.insert d.point .pending } : Manager σ).callMounter
        task (.mount d)).put task (.wait (.mounting d target purpose)))).slots =
        m.slots.insert d.point .pending := put_slots _
    by_cases hsame : d.point.same p = true
    · have hkey := Path.same_iff_key.mp hsame
      refine .reserved task ⟨d, purpose, target, ?_, hvalid, hfree, hsame⟩ ?_ ?_ (hlistings rfl)
      · rw [hold]
        exact hstarts
      · rw [← Slots.find?_congr hkey, hfree]
      · rw [hslots]
        exact Slots.find?_insert (Path.same_symm hsame)
    · refine .of_still hstarts.isStill ?_ (hlistings rfl)
      rw [hslots]
      exact Slots.find?_insert_ne fun hkey => hsame (Path.same_iff_key.mpr hkey.symm)
  | attached => exact .of_still rfl (by rw [put_slots]) (hlistings rfl)
  | @released d target purpose fault =>
    by_cases hsame : d.point.same p = true
    · refine .failed task fault ⟨_, _, hold, rfl, hsame⟩ rfl ?_ (hlistings rfl)
      rw [put_slots]
      exact Slots.find?_erase_self (Path.same_iff_key.mp hsame).symm
    · refine .of_still rfl ?_ (hlistings rfl)
      rw [put_slots]
      exact Slots.find?_erase_ne fun hkey => hsame (Path.same_iff_key.mpr hkey.symm)
  | @listed d i =>
    exact atPoint_enlist hold (by rw [put_slots, saveMounts_slots])
      (by rw [put_mounts, saveMounts_mounts])
  | relisted hrest =>
    exact atPoint_enlist hold (by rw [put_slots, hrest.frame.1])
      (by rw [put_mounts, hrest.frame.2.2.1])
  | loaded ht hload hrest =>
    exact .of_still rfl (by rw [put_slots, hrest.frame.1]) (hlistings hrest.frame.2.2.1)
  | notLoaded r => exact .of_still rfl (by rw [put_slots]) (hlistings rfl)
  | @notMounted q hq =>
    refine .kept ?_ ?_ ?_ (by rw [put_slots]) (hlistings rfl)
    · rintro ⟨task', he, -⟩
      cases he
    · rintro ⟨⟨i, hi⟩, task', q', he, hsame⟩
      cases he
      exact hq i (by rw [Slots.find?_congr (Path.same_iff_key.mp hsame), hi])
    · rintro ⟨-, task', he⟩
      cases he
  | @takenOut q i l hslot hl =>
    refine atPoint_takenOut hslot (put_slots _) (put_mounts _) ⟨.detaching i .save, ?_,
      List.mem_cons_self⟩
    exact (put_stands _ task _).mem_iff.mpr (List.mem_append_left _ List.mem_cons_self)
  | allTakenOut =>
    refine atPoint_shutDown hm (put_slots _) (put_mounts _) fun i hi => ⟨.stopping _, ?_, hi⟩
    have hwait : stopNext m.slots.sessions = .wait (.stopping m.slots.sessions) := by
      rw [stopNext, List.isEmpty_eq_false_iff.mpr (List.ne_nil_of_mem hi)]
      rfl
    refine (put_stands _ task _).mem_iff.mpr (List.mem_append_left _ ?_)
    rw [hwait]
    exact List.mem_cons_self
  | picked hi hl => exact .of_still rfl (by rw [put_slots]; rfl) (hlistings rfl)
  | detached hl hk => exact .of_still rfl (by rw [put_slots]) (hlistings rfl)
  | joined hl hphase => exact .of_still rfl (by rw [put_slots]) (hlistings rfl)
  | saved =>
    exact .of_still rfl (by rw [put_slots, saveMounts_slots]) (hlistings saveMounts_mounts)

theorem Sound.task?_of_fresh (hm : Sound m) (h : m.fresh ≤ task) : m.task? task = none := by
  cases ht : m.task? task with
  | none => rfl
  | some t =>
    have hlt := hm.below _ (mem_of_task? ht)
    exact absurd (Nat.lt_of_lt_of_le hlt h) (Nat.lt_irrefl _)

/-- An event does nothing else at a mount point. -/
theorem Effect.atPoint (hm : Sound m) (h : Effect fs s m e m') (p : Path) : AtPoint m m' p e := by
  cases h with
  | @begun e task m₁ next hfresh hturn =>
    have hpoint := hturn.atPoint (hm.begun hfresh) (hm.task?_of_fresh hfresh) p
    cases hpoint with
    | kept hlists htakes hshuts hslot hlistings =>
      exact .kept hlists htakes hshuts hslot hlistings
    | reserved task hcheck hfree hslot hlistings =>
      exact .reserved task hcheck hfree hslot hlistings
    | failed task fault hmounting he hslot hlistings =>
      exact .failed task fault hmounting he hslot hlistings
    | activated task i hmounting he hslot hlistings =>
      exact .activated task i hmounting he hslot hlistings
    | takenOut task q i he hsame hslot hfree hholds hlistings =>
      exact .takenOut task q i he hsame hslot hfree hholds hlistings
    | shutDown task i he hslot hfree hholds hlistings =>
      exact .shutDown task i he hslot hfree hholds hlistings
  | resumed hold hturn => exact hturn.atPoint hm hold p
  | session hfree hl hk => exact .of_still rfl rfl rfl
  | elapsed duration => exact .of_still rfl rfl rfl

end Manager

end FsGateway.Gateway
