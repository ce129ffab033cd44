import FsGateway.Proofs.Manager.Exclusion
import FsGateway.Proofs.Manager.Reservation
import Mathlib.Data.Set.Pairwise.Basic
import Mathlib.Data.Set.Subsingleton

/-!
# Who has a session in hands

A session is attached by a mount, which keeps it until it puts it into the slot of its mount point. An
unmount or a shutdown takes it out of the slot, stops it, and lets it go. So a session has one owner
from the moment at which it is attached until it has been stopped, and goes from owner to owner in one
direction only.

* `Owns`: a session is in the hands of an owner.
* `AtSession`: what an event can do to a session. `Effect.atSession`: an event does nothing else.
* `sessions_stay_in_custody`: the owners of sessions and the reservations of mount points in all runs.
-/

namespace FsGateway.Gateway

open Mount (Path Descriptor Fault FileSystem Table Files)

/-- Who has a session in hands. -/
inductive Owner
  /-- The operation that has attached it. -/
  | mounting (task : TaskId)
  | slot (p : Path)
  /-- The shutdown that has taken it out and has yet to stop it. -/
  | waiting (task : TaskId)
  /-- The unmount or the shutdown that stops it. -/
  | stopping (task : TaskId)

/-- A session goes to owners of higher rank only. -/
def Owner.rank : Owner → Nat
  | .mounting _ => 0
  | .slot _ => 1
  | .waiting _ => 2
  | .stopping _ => 3

/-- The sessions that an operation holds, with their owners. -/
def Task.custody (task : TaskId) : Task → List (SessionId × Owner)
  | .activating _ i _ => [(i, .mounting task)]
  | .detaching i sequel | .joining i _ sequel =>
    (i, .stopping task) :: sequel.sessions.map (·, .waiting task)
  | .stopping rest => rest.map (·, .waiting task)
  | .clearing .. | .mounting .. | .saving _ => []

theorem Task.custody_map_fst (task : TaskId) (t : Task) :
    (t.custody task).map (·.1) = t.sessions := by
  have hrest : ∀ rest : List SessionId, (rest.map (·, Owner.waiting task)).map (·.1) = rest := by
    intro rest
    rw [List.map_map]
    exact List.map_id rest
  cases t with
  | detaching i sequel => exact congrArg (i :: ·) (hrest _)
  | joining i result sequel => exact congrArg (i :: ·) (hrest _)
  | stopping rest => exact hrest rest
  | activating d i purpose => rfl
  | clearing d rest count => rfl
  | mounting d target purpose => rfl
  | saving result => rfl

theorem Starts.custody {task : TaskId} {e : ManagerEvent} {old : Option Task} {d : Descriptor}
    {purpose : Purpose} (h : Starts task e old d purpose) :
    old.toList.flatMap (Task.custody task) = [] := by
  cases h <;> rfl

theorem stopNext_custody (task : TaskId) (rest : List SessionId) :
    (stopNext rest).task?.toList.flatMap (Task.custody task) =
      rest.map (·, Owner.waiting task) := by
  unfold stopNext
  split
  · rename_i h
    rw [List.isEmpty_iff.mp h]
    rfl
  · simp [Next.task?, Task.custody]

theorem Sequel.next_custody (task : TaskId) (result : Except Fault Unit) (sequel : Sequel) :
    (sequel.next result).task?.toList.flatMap (Task.custody task) =
      sequel.sessions.map (·, Owner.waiting task) := by
  cases sequel with
  | save => rfl
  | stopMore rest => exact stopNext_custody task rest

namespace Slots

variable {s t : Slots} {p : Path} {i : SessionId} {o : Owner}

/-- The sessions of active slots, with their slots. -/
def custody (s : Slots) : List (SessionId × Owner) :=
  s.filterMap fun e =>
    match e.2 with
    | .active i => some (i, .slot e.1)
    | .pending => none

theorem mem_custody_iff : (i, o) ∈ s.custody ↔ ∃ p, (p, .active i) ∈ s ∧ o = .slot p := by
  constructor
  · intro h
    obtain ⟨⟨p, slot⟩, he, hi⟩ := List.mem_filterMap.mp h
    cases slot with
    | pending => cases hi
    | active j =>
      cases hi
      exact ⟨p, he, rfl⟩
  · rintro ⟨p, h, rfl⟩
    exact List.mem_filterMap.mpr ⟨(p, .active i), h, rfl⟩

theorem custody_map_fst (s : Slots) : s.custody.map (·.1) = s.sessions := by
  rw [custody, sessions, List.map_filterMap]
  congr 1
  funext e
  cases e.2 <;> rfl

theorem custody_perm (h : List.Perm s t) : s.custody.Perm t.custody := h.filterMap _

@[simp] theorem custody_append : custody (s ++ t) = s.custody ++ t.custody :=
  List.filterMap_append

@[simp] theorem custody_cons_active : custody ((p, .active i) :: s) = (i, .slot p) :: s.custody :=
  rfl

@[simp] theorem custody_cons_pending : custody ((p, .pending) :: s) = s.custody := rfl

@[simp] theorem custody_pending : s.pending.custody = [] := by
  have hnone := congrArg List.length (custody_map_fst s.pending)
  rw [sessions_pending, List.length_map] at hnone
  exact List.length_eq_zero_iff.mp hnone

end Slots

namespace Manager

variable {σ : Type} {fs : FileSystem σ} {s : Setup} {m m' m₁ k : Manager σ} {files : σ}
  {events : List ManagerEvent} {e : ManagerEvent} {task : TaskId} {old : Option Task} {next : Next}
  {d : Descriptor} {p : Path} {i j : SessionId} {o o' : Owner}

/-! ## Owners -/

/-- The sessions that someone holds, with their owners. -/
def custody (m : Manager σ) : List (SessionId × Owner) :=
  m.slots.custody ++ m.tasks.flatMap fun entry => entry.2.custody entry.1

/-- A session is in the hands of an owner. -/
def Owns (m : Manager σ) (i : SessionId) (o : Owner) : Prop := (i, o) ∈ m.custody

theorem custody_map_fst (m : Manager σ) : m.custody.map (·.1) = m.held := by
  rw [custody, List.map_append, Slots.custody_map_fst, List.map_flatMap, held]
  simp only [Task.custody_map_fst]

theorem mem_held_iff : i ∈ m.held ↔ ∃ o, m.Owns i o := by
  rw [← custody_map_fst]
  simp [Owns]

/-- A session has one owner at most. -/
theorem Sound.eq_of_owns (hm : Sound m) (h : m.Owns i o) (h' : m.Owns i o') : o = o' := by
  have hnodup : (m.custody.map (·.1)).Nodup := by
    rw [custody_map_fst]
    exact hm.once
  exact congrArg Prod.snd (List.inj_on_of_nodup_map hnodup h h' rfl)

theorem owns_slot_iff : m.Owns i (.slot p) ↔ (p, .active i) ∈ m.slots := by
  rw [Owns, custody, List.mem_append, Slots.mem_custody_iff]
  constructor
  · rintro (⟨q, hq, heq⟩ | htasks)
    · cases heq
      exact hq
    · obtain ⟨⟨task, t⟩, -, ht⟩ := List.mem_flatMap.mp htasks
      cases t <;> simp [Task.custody] at ht
  · intro hp
    exact Or.inl ⟨p, hp, rfl⟩

theorem owns_of_task? {t : Task} (htask : m.task? task = some t) (hi : (i, o) ∈ t.custody task) :
    m.Owns i o :=
  List.mem_append_right _ (List.mem_flatMap.mpr ⟨(task, t), mem_of_task? htask, hi⟩)

/-- How an event takes a session from one owner to the next, or to nobody when it has been stopped. -/
inductive Moves (m : Manager σ) (i : SessionId) : ManagerEvent → Owner → Option Owner → Prop
  | activated {task : TaskId} {d : Descriptor} {purpose : Purpose} :
      m.task? task = some (.activating d i purpose) →
      Moves m i (.activate task) (.mounting task) (some (.slot d.point))
  | unmounted {task : TaskId} {p q : Path} : m.slots.find? p = some (.active i) →
      (q, .active i) ∈ m.slots → Moves m i (.unmount task p) (.slot q) (some (.stopping task))
  | shutDown {task : TaskId} {p : Path} : (p, .active i) ∈ m.slots →
      Moves m i (.shutDownAll task) (.slot p) (some (.waiting task))
  | picked {task : TaskId} {rest : List SessionId} : m.task? task = some (.stopping rest) →
      i ∈ rest → Moves m i (.stop task i) (.waiting task) (some (.stopping task))
  | stopped {task : TaskId} {result : Except Fault Unit} {sequel : Sequel} :
      m.task? task = some (.joining i result sequel) →
      Moves m i (.join task) (.stopping task) none

theorem Moves.owns {next : Option Owner} (h : m.Moves i e o next) : m.Owns i o := by
  cases h with
  | activated htask => exact owns_of_task? htask List.mem_cons_self
  | unmounted hslot hmem => exact owns_slot_iff.mpr hmem
  | shutDown hmem => exact owns_slot_iff.mpr hmem
  | picked htask hi => exact owns_of_task? htask (List.mem_map_of_mem hi)
  | stopped htask => exact owns_of_task? htask List.mem_cons_self

theorem Moves.rank_lt (h : m.Moves i e o (some o')) : o.rank < o'.rank := by
  cases h <;> simp [Owner.rank]

theorem Moves.next_eq {next next' : Option Owner} (h : m.Moves i e o next)
    (h' : m.Moves i e o next') : next = next' := by
  cases h with
  | activated htask =>
    cases h' with
    | activated htask' =>
      cases htask.symm.trans htask'
      rfl
  | unmounted hslot hmem => cases h' with | unmounted => rfl
  | shutDown hmem => cases h' with | shutDown => rfl
  | picked htask hi => cases h' with | picked => rfl
  | stopped htask => cases h' with | stopped => rfl

/-- Only a shutdown moves several sessions. -/
theorem Moves.eq {next next' : Option Owner} (h : m.Moves i e o next) (h' : m.Moves j e o' next')
    (he : ∀ task, e ≠ .shutDownAll task) : i = j := by
  cases h with
  | activated htask =>
    cases h' with
    | activated htask' =>
      cases htask.symm.trans htask'
      rfl
  | unmounted hslot hmem =>
    cases h' with
    | unmounted hslot' hmem' =>
      cases hslot.symm.trans hslot'
      rfl
  | shutDown hmem => exact absurd rfl (he _)
  | picked htask hi =>
    cases h' with
    | picked htask' hi' => rfl
  | stopped htask =>
    cases h' with
    | stopped htask' =>
      cases htask.symm.trans htask'
      rfl

/-- The mounter has attached a session for an operation. -/
def Attaches (m : Manager σ) (task : TaskId) (i : SessionId) (e : ManagerEvent) : Prop :=
  e = .returned task (.ok ()) ∧ i = m.sessions.length ∧
    ∃ d target purpose, m.task? task = some (.mounting d target purpose)

theorem Moves.not_attaches {next : Option Owner} (h : m.Moves i e o next) :
    ¬ m.Attaches task j e := by
  rintro ⟨rfl, -⟩
  cases h

/-! ## How a turn hands on sessions -/

/-- How the sessions that someone holds change, with their owners. -/
inductive Passing (m : Manager σ) (e : ManagerEvent) (before after : List (SessionId × Owner)) :
    Prop
  | kept : (∀ i o next, ¬ m.Moves i e o next) → (∀ task i, ¬ m.Attaches task i e) →
      after.Perm before → Passing m e before after
  | attached {task : TaskId} : m.Attaches task m.sessions.length e →
      after.Perm ((m.sessions.length, .mounting task) :: before) → Passing m e before after
  | moved {i : SessionId} {o : Owner} {next : Option Owner} {rest : List (SessionId × Owner)} :
      m.Moves i e o next → (∀ task, e ≠ .shutDownAll task) → before.Perm ((i, o) :: rest) →
      after.Perm (next.toList.map (i, ·) ++ rest) → Passing m e before after
  | shutDown {task : TaskId} {rest : List (SessionId × Owner)} : e = .shutDownAll task →
      before.Perm (m.slots.custody ++ rest) →
      after.Perm (m.slots.sessions.map (·, .waiting task) ++ rest) → Passing m e before after

namespace Passing

variable {before after : List (SessionId × Owner)}

theorem append (h : Passing m e before after) (rest : List (SessionId × Owner)) :
    Passing m e (before ++ rest) (after ++ rest) := by
  cases h with
  | kept hmoves hattaches hperm => exact .kept hmoves hattaches (hperm.append_right rest)
  | attached hattaches hperm => exact .attached hattaches (hperm.append_right rest)
  | moved hmoves he hb ha =>
    have hafter := ha.append_right rest
    rw [List.append_assoc] at hafter
    exact .moved hmoves he (hb.append_right rest) hafter
  | shutDown he hb ha =>
    have hbefore := hb.append_right rest
    have hafter := ha.append_right rest
    rw [List.append_assoc] at hbefore hafter
    exact .shutDown he hbefore hafter

theorem perm {before' after' : List (SessionId × Owner)} (h : Passing m e before after)
    (hbefore : before.Perm before') (hafter : after.Perm after') : Passing m e before' after' := by
  cases h with
  | kept hmoves hattaches hperm =>
    exact .kept hmoves hattaches (hafter.symm.trans (hperm.trans hbefore))
  | attached hattaches hperm =>
    exact .attached hattaches (hafter.symm.trans (hperm.trans (hbefore.cons _)))
  | moved hmoves he hb ha => exact .moved hmoves he (hbefore.symm.trans hb) (hafter.symm.trans ha)
  | shutDown he hb ha => exact .shutDown he (hbefore.symm.trans hb) (hafter.symm.trans ha)

end Passing

theorem Stands.custody {rest : List (TaskId × Task)} (h : Stands m task old rest) :
    m.custody.Perm (m.slots.custody ++ old.toList.flatMap (Task.custody task) ++
      rest.flatMap fun entry => entry.2.custody entry.1) := by
  rw [List.append_assoc]
  refine List.Perm.append_left _ ((h.flatMap_right _).trans ?_)
  rw [List.flatMap_append, List.flatMap_map]

/-- The slot of a mount point, where a session is listed, was pending. -/
theorem enlist_custody {rest : List Path} (hd : m.slots.Distinct)
    (hr : m.slots.reserved.Perm (d.point :: rest)) :
    (m.enlist d i).slots.custody.Perm ((i, .slot d.point) :: m.slots.custody) := by
  have hmem : (d.point, .pending) ∈ m.slots :=
    Slots.mem_reserved_iff.mp (hr.mem_iff.mpr List.mem_cons_self)
  have hperm := Slots.custody_perm (Slots.perm_erase hd hmem rfl)
  rw [Slots.custody_cons_pending] at hperm
  have hslots : (m.enlist d i).slots.custody =
      (m.slots.erase d.point).custody ++ [(i, .slot d.point)] := by
    rw [enlist, Slots.insert, Slots.custody_append]
    rfl
  rw [hslots]
  exact (List.perm_append_singleton _ _).trans (hperm.symm.cons _)

theorem Restores.custody {rest : List Descriptor} {count : Nat}
    (h : Restores m task rest count m₁ next) :
    next.task?.toList.flatMap (Task.custody task) = [] := by
  cases h <;> rfl

theorem Passing.of_quiet {before after : List (SessionId × Owner)}
    (hmoves : ∀ i o next, ¬ m.Moves i e o next) (he : ∀ task, e ≠ .returned task (.ok ()))
    (h : after.Perm before) : Passing m e before after :=
  .kept hmoves (fun task _ hattaches => he task hattaches.1) h

theorem Passing.of_starts {purpose : Purpose} {l : List (SessionId × Owner)}
    (h : Starts task e old d purpose) (hold : m.task? task = old) : Passing m e l l := by
  cases h with
  | mount d =>
    exact .of_quiet (by rintro i o next ⟨⟩) (by simp) (List.Perm.refl _)
  | restore result d rest count =>
    refine .kept ?_ ?_ (List.Perm.refl _)
    · rintro i o next ⟨⟩
    · rintro task' i ⟨he, -, d', target, purpose, htask⟩
      cases he
      cases hold.symm.trans htask

/-- How a turn hands on sessions. -/
theorem Turn.passing {fresh : TaskId} {rest : List Path}
    (h : Turn fs s { m with fresh := fresh } task e old m₁ next) (hold : m.task? task = old)
    (hd : m.slots.Distinct)
    (hr : m.slots.reserved.Perm (old.toList.filterMap Task.point? ++ rest)) :
    Passing m e (m.slots.custody ++ old.toList.flatMap (Task.custody task))
      (m₁.slots.custody ++ next.task?.toList.flatMap (Task.custody task)) := by
  cases h with
  | @refused e old d purpose fault hstarts hbars =>
    rw [hstarts.custody]
    exact .of_starts hstarts hold
  | @reserved e old d purpose target hstarts hvalid hfree =>
    have hslots : (m.slots.insert d.point .pending).custody = m.slots.custody := by
      rw [Slots.insert_of_find?_eq_none hfree, Slots.custody_append]
      exact List.append_nil _
    have hsame : m.slots.custody ++ (Next.wait (.mounting d target purpose)).task?.toList.flatMap
        (Task.custody task) = m.slots.custody := List.append_nil _
    rw [hstarts.custody]
    simp only [callMounter, hslots, hsame, List.append_nil]
    exact .of_starts hstarts hold
  | @attached d target purpose =>
    have hattaches : m.Attaches task m.sessions.length (.returned task (.ok ())) :=
      ⟨rfl, rfl, d, target, purpose, hold⟩
    refine .attached hattaches ?_
    exact List.perm_append_comm.trans (by simp [Next.task?, Task.custody])
  | @released d target purpose fault =>
    have hmem : (d.point, .pending) ∈ m.slots :=
      Slots.mem_reserved_iff.mp (hr.mem_iff.mpr (by simp [Task.point?]))
    have hperm := Slots.custody_perm (Slots.perm_erase hd hmem rfl)
    exact .of_quiet (by rintro i o next ⟨⟩) (by simp) (hperm.symm.append_right [])
  | @listed d i =>
    refine .moved (.activated hold) (by simp) (List.perm_append_singleton _ _) ?_
    rw [saveMounts_slots]
    exact (List.Perm.of_eq (List.append_nil _)).trans (enlist_custody hd hr)
  | @relisted d i others count m₁ next hrest =>
    refine .moved (.activated hold) (by simp) (List.perm_append_singleton _ _) ?_
    rw [hrest.frame.1, hrest.custody, List.append_nil]
    exact enlist_custody hd hr
  | loaded ht hload hrest =>
    rw [hrest.frame.1, hrest.custody]
    exact .of_quiet (by rintro i o next ⟨⟩) (by simp) (List.Perm.refl _)
  | notLoaded r => exact .of_quiet (by rintro i o next ⟨⟩) (by simp) (List.Perm.refl _)
  | @notMounted p hp =>
    refine .of_quiet ?_ (by simp) (List.Perm.refl _)
    intro i o next hmoves
    cases hmoves with
    | unmounted hslot hmem => exact hp i hslot
  | @takenOut p i l hslot hl =>
    obtain ⟨q, hmem, hq⟩ := Slots.mem_of_find? hslot
    have hperm := Slots.custody_perm (Slots.perm_erase hd hmem hq)
    rw [Slots.custody_cons_active] at hperm
    refine .moved (.unmounted hslot hmem) (by simp) (hperm.append_right _) ?_
    simp [callMounter, Next.task?, Task.custody, Sequel.sessions]
  | allTakenOut =>
    rw [stopNext_custody]
    refine .shutDown rfl (List.Perm.refl _) ?_
    simp
  | @picked waiting i l hi hl =>
    have hperm := (List.perm_cons_erase hi).map (·, Owner.waiting task)
    have hbefore : (m.slots.custody ++ (some (Task.stopping waiting)).toList.flatMap
          (Task.custody task)).Perm
        ((i, .waiting task) :: (m.slots.custody ++ (waiting.erase i).map (·, .waiting task))) := by
      simpa [Task.custody] using (hperm.append_left m.slots.custody).trans List.perm_middle
    refine .moved (.picked hold hi) (by simp) hbefore ?_
    simp [callMounter, Next.task?, Task.custody, Sequel.sessions]
  | detached hl hk =>
    refine .kept ?_ ?_ (List.Perm.refl _)
    · rintro i o next ⟨⟩
    · rintro task' i ⟨he, -, d, target, purpose, htask⟩
      cases he
      cases hold.symm.trans htask
  | @joined i l result sequel hl hphase =>
    rw [Sequel.next_custody]
    refine .moved (.stopped hold) (by simp) ?_ (List.Perm.refl _)
    simp [Task.custody]
  | saved =>
    refine .of_quiet (by rintro i o next ⟨⟩) (by simp) ?_
    simp [Next.task?, Task.custody]

/-- How an event hands on sessions. -/
theorem Effect.passing (hm : Sound m) (h : Effect fs s m e m') :
    Passing m e m.custody m'.custody := by
  rcases h.turn_or_apart hm with ⟨fresh, task, m₁, next, -, -, hnew, hturn, rfl⟩ |
    ⟨he, hsame, -⟩
  · have hstands : Stands m task (m.task? task) (m.others task) := by
      cases hold : m.task? task with
      | none => exact hm.stands_of_fresh (hnew hold)
      | some t => exact hm.stands_of_task? hold
    have hafter := (put_stands m₁ task next).custody
    have hothers : m₁.others task = m.others task := by
      rw [others, hturn.frame.1]
      rfl
    rw [put_slots, hothers] at hafter
    have hpassing := hturn.passing rfl hm.distinct (hm.reserved.trans hstands.points)
    exact (hpassing.append _).perm hstands.custody.symm hafter.symm
  · have hcustody : m'.custody = m.custody := by rw [custody, custody, hsame.slots, hsame.tasks]
    rw [hcustody]
    refine .kept ?_ ?_ (List.Perm.refl _)
    · intro i o next hmoves
      cases hmoves <;> cases he
    · rintro task i ⟨rfl, -⟩
      cases he

/-! ## What happens to a session -/

/-- What an event can do to a session. -/
inductive AtSession (m m' : Manager σ) (i : SessionId) (e : ManagerEvent) : Prop
  | kept : (∀ o next, ¬ m.Moves i e o next) → (∀ task, ¬ m.Attaches task i e) →
      (∀ o, m'.Owns i o ↔ m.Owns i o) → AtSession m m' i e
  | attached (task : TaskId) : m.Attaches task i e → m'.Owns i (.mounting task) →
      AtSession m m' i e
  | moved (o o' : Owner) : m.Moves i e o (some o') → m'.Owns i o' → AtSession m m' i e
  | stopped (o : Owner) : m.Moves i e o none → (∀ o', ¬ m'.Owns i o') → AtSession m m' i e

/-- An event does nothing else to a session. -/
theorem Effect.atSession (hm : Sound m) (h : Effect fs s m e m') (i : SessionId) :
    AtSession m m' i e := by
  have hnodup : (m.custody.map (·.1)).Nodup := by
    rw [custody_map_fst]
    exact hm.once
  cases h.passing hm with
  | kept hmoves hattaches hperm =>
    exact .kept (hmoves i) (fun task => hattaches task i) fun o => hperm.mem_iff
  | @attached task hattaches hafter =>
    by_cases hi : i = m.sessions.length
    · subst hi
      exact .attached task hattaches (hafter.mem_iff.mpr List.mem_cons_self)
    · obtain ⟨rfl, -⟩ := hattaches
      refine .kept (by rintro o next ⟨⟩) (fun task' h => hi h.2.1) fun o => ?_
      rw [Owns, hafter.mem_iff, List.mem_cons, Owns]
      simp [hi]
  | @moved j o next rest hmoves he hbefore hafter =>
    have hrest : ∀ o', (j, o') ∉ rest := by
      intro o' hmem
      have hcons := (hbefore.map (·.1)).nodup_iff.mp hnodup
      exact (List.nodup_cons.mp hcons).1 (List.mem_map.mpr ⟨(j, o'), hmem, rfl⟩)
    by_cases hij : i = j
    · subst hij
      cases next with
      | none =>
        refine .stopped o hmoves fun o' hmem => ?_
        exact hrest o' (hafter.mem_iff.mp hmem)
      | some o' => exact .moved o o' hmoves (hafter.mem_iff.mpr List.mem_cons_self)
    · refine .kept (fun o' next' hmoves' => hij (hmoves'.eq hmoves he))
        (fun task => hmoves.not_attaches) fun o' => ?_
      rw [Owns, hafter.mem_iff, Owns, hbefore.mem_iff]
      cases next <;> simp [hij]
  | @shutDown task rest he hbefore hafter =>
    subst he
    by_cases hi : i ∈ m.slots.sessions
    · obtain ⟨p, hp⟩ := Slots.mem_sessions_iff.mp hi
      refine .moved (.slot p) (.waiting task) (.shutDown hp) (hafter.mem_iff.mpr ?_)
      exact List.mem_append_left _ (List.mem_map_of_mem hi)
    · refine .kept ?_ ?_ fun o => ?_
      · intro o next hmoves
        cases hmoves with
        | shutDown hmem => exact hi (Slots.mem_sessions_iff.mpr ⟨_, hmem⟩)
      · rintro task' ⟨he, -⟩
        cases he
      · have hslots : (i, o) ∉ m.slots.custody := by
          intro hmem
          rw [← Slots.custody_map_fst] at hi
          exact hi (List.mem_map_of_mem hmem)
        have hqueue : (i, o) ∉ m.slots.sessions.map (·, Owner.waiting task) := by
          intro hmem
          obtain ⟨j, hj, heq⟩ := List.mem_map.mp hmem
          cases heq
          exact hi hj
        rw [Owns, hafter.mem_iff, Owns, hbefore.mem_iff, List.mem_append, List.mem_append]
        simp [hslots, hqueue]

/-- A session is added where the mounter has attached it, and nowhere else. -/
theorem Effect.length (hm : Sound m) (h : Effect fs s m e m') :
    m'.sessions.length = m.sessions.length ∨
      m'.sessions.length = m.sessions.length + 1 ∧ ∃ task, m.Attaches task m.sessions.length e := by
  rcases h.turn_or_apart hm with ⟨fresh, task, m₁, next, -, -, -, hturn, rfl⟩ | ⟨-, -, -, hsame⟩
  · rw [put_sessions]
    generalize hold : m.task? task = old at hturn
    cases hturn with
    | @attached d target purpose =>
      exact Or.inr ⟨List.length_append, task, rfl, rfl, d, target, purpose, hold⟩
    | listed =>
      rw [saveMounts_sessions]
      exact Or.inl rfl
    | relisted hrest =>
      rw [hrest.frame.2.1]
      exact Or.inl rfl
    | loaded ht hload hrest =>
      rw [hrest.frame.2.1]
      exact Or.inl rfl
    | detached hl hk => exact Or.inl List.length_set
    | saved =>
      rw [saveMounts_sessions]
      exact Or.inl rfl
    | _ => exact Or.inl rfl
  · exact Or.inl hsame

theorem Effect.le_length (hm : Sound m) (h : Effect fs s m e m') :
    m.sessions.length ≤ m'.sessions.length := by
  rcases h.length hm with hsame | ⟨hmore, -⟩
  · exact Nat.le_of_eq hsame.symm
  · rw [hmore]
    exact Nat.le_succ _

/-! ## Runs -/

/-- A session has been stopped, and its last owner has let it go. -/
def HasStopped (fs : FileSystem σ) (s : Setup) (m : Manager σ) (events : List ManagerEvent)
    (i : SessionId) : Prop :=
  Run.Happens (step fs s) m events fun m e => ∃ o, m.Moves i e o none

/-- An unmount or a shutdown takes a session out of its slot. -/
def TakesSession (m : Manager σ) (task : TaskId) (i : SessionId) (e : ManagerEvent) : Prop :=
  (∃ p, e = .unmount task p ∧ m.slots.find? p = some (.active i)) ∨
    e = .shutDownAll task ∧ i ∈ m.slots.sessions

/-- What holds of a session in the course of events. -/
structure InCustody (fs : FileSystem σ) (s : Setup) (start : Manager σ) (events : List ManagerEvent)
    (m : Manager σ) (i : SessionId) : Prop where
  owned : i < m.sessions.length → HasStopped fs s start events i ∨ ∃ o, m.Owns i o
  stopped : HasStopped fs s start events i → i < m.sessions.length ∧ ∀ o, ¬ m.Owns i o
  attached : ∀ task, m.Owns i (.mounting task) →
    Run.Happens (step fs s) start events fun m e => m.Attaches task i e
  taken : ∀ task, m.Owns i (.waiting task) ∨ m.Owns i (.stopping task) →
    Run.Happens (step fs s) start events fun m e => m.TakesSession task i e

/-- Who gets a session to stop it has taken it out, now or before. -/
theorem InCustody.taken_of_moves {start : Manager σ} {o o' : Owner}
    (h : InCustody fs s start events m i) (hmoves : m.Moves i e o (some o'))
    (howner : .waiting task = o' ∨ .stopping task = o') :
    Run.Happens (Manager.step fs s) start events (fun m e => m.TakesSession task i e) ∨
      m.TakesSession task i e := by
  cases hmoves with
  | activated htask => rcases howner with howner | howner <;> cases howner
  | unmounted hslot hmem =>
    rcases howner with howner | howner <;> cases howner
    exact Or.inr (Or.inl ⟨_, rfl, hslot⟩)
  | shutDown hmem =>
    rcases howner with howner | howner <;> cases howner
    exact Or.inr (Or.inr ⟨rfl, Slots.mem_sessions_iff.mpr ⟨_, hmem⟩⟩)
  | picked htask hi =>
    rcases howner with howner | howner <;> cases howner
    exact Or.inl (h.taken _ (Or.inl (owns_of_task? htask (List.mem_map_of_mem hi))))

theorem InCustody.step {start : Manager σ} (h : InCustody fs s start events m i) (hm : Sound m)
    (hrun : start.run fs s events = some m) (hstep : m.step fs s e = some m') :
    InCustody fs s start (events ++ [e]) m' i := by
  have heffect := step_effect hstep
  have hm' := hm.effect heffect
  have hlater : ∀ {P : Manager σ → ManagerEvent → Prop},
      Run.Happens (Manager.step fs s) start (events ++ [e]) P ↔
        Run.Happens (Manager.step fs s) start events P ∨ P m e := Run.happens_concat_iff hrun e
  have hle := heffect.le_length hm
  cases heffect.atSession hm i with
  | kept hmoves hattaches howns =>
    have hold : i < m'.sessions.length → i < m.sessions.length := by
      intro hi
      rcases heffect.length hm with hsame | ⟨hmore, task, hattached⟩
      · rwa [hsame] at hi
      · have hne : i ≠ m.sessions.length := by
          rintro rfl
          exact hattaches task hattached
        rw [hmore] at hi
        exact Nat.lt_of_le_of_ne (Nat.le_of_lt_succ hi) hne
    refine ⟨fun hi => ?_, fun hstopped => ?_, fun task howner => ?_, fun task howner => ?_⟩
    · simp only [HasStopped, hlater, howns]
      exact (h.owned (hold hi)).imp_left Or.inl
    · rw [HasStopped, hlater] at hstopped
      have hbefore := hstopped.resolve_right fun ⟨o, hmove⟩ => hmoves o none hmove
      obtain ⟨hi, hnone⟩ := h.stopped hbefore
      exact ⟨Nat.lt_of_lt_of_le hi hle, fun o howner => hnone o ((howns o).mp howner)⟩
    · exact hlater.mpr (Or.inl (h.attached task ((howns _).mp howner)))
    · rw [howns, howns] at howner
      exact hlater.mpr (Or.inl (h.taken task howner))
  | attached task hattaches howner =>
    have hi : i = m.sessions.length := hattaches.2.1
    have hnever : ¬ HasStopped fs s start (events ++ [e]) i := by
      rw [HasStopped, hlater]
      rintro (hbefore | ⟨o, hmove⟩)
      · exact absurd (h.stopped hbefore).1 (Nat.not_lt.mpr (Nat.le_of_eq hi.symm))
      · exact hmove.not_attaches hattaches
    have honly : ∀ o, m'.Owns i o → o = .mounting task := fun o ho => hm'.eq_of_owns ho howner
    refine ⟨fun _ => Or.inr ⟨_, howner⟩, fun hstopped => absurd hstopped hnever, ?_, ?_⟩
    · intro task' howner'
      cases honly _ howner'
      exact hlater.mpr (Or.inr hattaches)
    · rintro task' (howner' | howner') <;> cases honly _ howner'
  | moved o o' hmoves howner =>
    have honly : ∀ o₁, m'.Owns i o₁ → o₁ = o' := fun o₁ ho => hm'.eq_of_owns ho howner
    have hnever : ¬ HasStopped fs s start (events ++ [e]) i := by
      rw [HasStopped, hlater]
      rintro (hbefore | ⟨o₁, hmove⟩)
      · exact (h.stopped hbefore).2 o hmoves.owns
      · obtain rfl := hm.eq_of_owns hmove.owns hmoves.owns
        cases hmove.next_eq hmoves
    refine ⟨fun _ => Or.inr ⟨_, howner⟩, fun hstopped => absurd hstopped hnever, ?_, ?_⟩
    · intro task' howner'
      cases honly _ howner'
      cases hmoves
    · intro task' howner'
      exact hlater.mpr (h.taken_of_moves hmoves (howner'.imp (honly _ ·) (honly _ ·)))
  | stopped o hmoves hnone =>
    have hi : i < m.sessions.length := hm.exist i (mem_held_iff.mpr ⟨o, hmoves.owns⟩)
    refine ⟨fun _ => Or.inl (hlater.mpr (Or.inr ⟨o, hmoves⟩)),
      fun _ => ⟨Nat.lt_of_lt_of_le hi hle, hnone⟩, ?_, ?_⟩
    · exact fun task howner => absurd howner (hnone _)
    · exact fun task howner => absurd howner (not_or.mpr ⟨hnone _, hnone _⟩)

theorem run_inCustody (h : (empty files).run fs s events = some m) (i : SessionId) :
    InCustody fs s (empty files) events m i := by
  refine Run.foldlM_induction (P := fun events m => InCustody fs s (empty files) events m i) ?_ ?_ h
  · have hnone : ∀ o, ¬ (empty files).Owns i o := by simp [Owns, custody, empty, Slots.custody]
    refine ⟨fun hi => absurd hi (Nat.not_lt_zero i), fun h => absurd h Run.not_happens_nil, ?_, ?_⟩
    · exact fun task howner => absurd howner (hnone _)
    · exact fun task howner => absurd howner (not_or.mpr ⟨hnone _, hnone _⟩)
  · intro events m e m' hrun ih hstep
    exact ih.step (run_sound hrun) hrun hstep

/-! ## Once only -/

/-- A session goes from an owner whose rank is below a bound to one whose rank is not, or to nobody. -/
def Passes (m : Manager σ) (i : SessionId) (bound : Nat) (e : ManagerEvent) : Prop :=
  ∃ o next, m.Moves i e o next ∧ o.rank < bound ∧ ∀ o', next = some o' → bound ≤ o'.rank

/-- A session has been attached, and its owner, if there is one, has a rank that is not below a bound. -/
structure Passed (i : SessionId) (bound : Nat) (m : Manager σ) : Prop where
  sound : Sound m
  exists_session : i < m.sessions.length
  le_rank : ∀ o, m.Owns i o → bound ≤ o.rank

theorem Passes.passed {bound : Nat} (h : m.Passes i bound e) (hm : Sound m)
    (heffect : Effect fs s m e m') : Passed i bound m' := by
  obtain ⟨o, next, hmoves, -, hnext⟩ := h
  have hm' := hm.effect heffect
  have hi : i < m.sessions.length := hm.exist i (mem_held_iff.mpr ⟨o, hmoves.owns⟩)
  refine ⟨hm', Nat.lt_of_lt_of_le hi (heffect.le_length hm), fun o' howner => ?_⟩
  cases heffect.atSession hm i with
  | kept hnever hattaches howns => exact absurd hmoves (hnever o next)
  | attached task hattaches howner' => exact absurd hattaches hmoves.not_attaches
  | moved o₁ o₂ hmoves' howner' =>
    obtain rfl := hm.eq_of_owns hmoves'.owns hmoves.owns
    obtain rfl := hm'.eq_of_owns howner' howner
    exact hnext o₂ (hmoves.next_eq hmoves')
  | stopped o₁ hmoves' hnone => exact absurd howner (hnone o')

theorem Passed.effect {bound : Nat} (h : Passed i bound m) (heffect : Effect fs s m e m') :
    Passed i bound m' := by
  have hm' := h.sound.effect heffect
  refine ⟨hm', Nat.lt_of_lt_of_le h.exists_session (heffect.le_length h.sound), fun o howner => ?_⟩
  cases heffect.atSession h.sound i with
  | kept hnever hattaches howns => exact h.le_rank o ((howns o).mp howner)
  | attached task hattaches howner' =>
    exact absurd h.exists_session (Nat.not_lt.mpr (Nat.le_of_eq hattaches.2.1.symm))
  | moved o₁ o₂ hmoves howner' =>
    obtain rfl := hm'.eq_of_owns howner' howner
    exact Nat.le_of_lt (Nat.lt_of_le_of_lt (h.le_rank o₁ hmoves.owns) hmoves.rank_lt)
  | stopped o₁ hmoves hnone => exact absurd howner (hnone o)

/-- The owners of a session pass a rank at most once. -/
theorem passes_atMostOnce (fs : FileSystem σ) (s : Setup) (files : σ) (events : List ManagerEvent)
    (i : SessionId) (bound : Nat) : Run.AtMostOnce (step fs s) (empty files) events
      fun m e => m.Passes i bound e := by
  refine Run.atMostOnce_of_spent (Passed i bound) ?_ ?_ ?_
  · intro before m e m' hrun hstep hpasses
    exact hpasses.passed (run_sound hrun) (step_effect hstep)
  · intro m e m' hpassed hstep
    exact hpassed.effect (step_effect hstep)
  · rintro m e hpassed ⟨o, next, hmoves, hlt, -⟩
    exact absurd (hpassed.le_rank o hmoves.owns) (Nat.not_le.mpr hlt)

theorem TakesSession.passes (h : m.TakesSession task i e) : m.Passes i 2 e := by
  rcases h with ⟨p, rfl, hslot⟩ | ⟨rfl, hi⟩
  · obtain ⟨q, hmem, -⟩ := Slots.mem_of_find? hslot
    exact ⟨_, _, .unmounted hslot hmem, by simp [Owner.rank], by simp [Owner.rank]⟩
  · obtain ⟨p, hp⟩ := Slots.mem_sessions_iff.mp hi
    exact ⟨_, _, .shutDown hp, by simp [Owner.rank], by simp [Owner.rank]⟩

/-- An operation begins to stop a session: an unmount takes it out, or a shutdown comes to it. -/
def BeginsStop (m : Manager σ) (i : SessionId) (e : ManagerEvent) : Prop :=
  (∃ task p, e = .unmount task p ∧ m.slots.find? p = some (.active i)) ∨
    ∃ task rest, e = .stop task i ∧ m.task? task = some (.stopping rest) ∧ i ∈ rest

theorem BeginsStop.passes (h : m.BeginsStop i e) : m.Passes i 3 e := by
  rcases h with ⟨task, p, rfl, hslot⟩ | ⟨task, rest, rfl, htask, hi⟩
  · obtain ⟨q, hmem, -⟩ := Slots.mem_of_find? hslot
    exact ⟨_, _, .unmounted hslot hmem, by simp [Owner.rank], by simp [Owner.rank]⟩
  · exact ⟨_, _, .picked htask hi, by simp [Owner.rank], by simp [Owner.rank]⟩

/-! ## Mount points -/

theorem owns_mounting_iff : m.Owns i (.mounting task) ↔
    ∃ d purpose, (task, .activating d i purpose) ∈ m.tasks := by
  rw [Owns, custody, List.mem_append, Slots.mem_custody_iff]
  constructor
  · rintro (⟨p, -, heq⟩ | htasks)
    · cases heq
    · obtain ⟨⟨task', t⟩, hmem, ht⟩ := List.mem_flatMap.mp htasks
      cases t <;> simp [Task.custody] at ht
      obtain ⟨rfl, rfl⟩ := ht
      exact ⟨_, _, hmem⟩
  · rintro ⟨d, purpose, hmem⟩
    exact Or.inr (List.mem_flatMap.mpr ⟨_, hmem, List.mem_cons_self⟩)

/-- A slot stays pending until its operation activates its session or fails. -/
theorem Effect.pending_stays (hm : Sound m) (h : Effect fs s m e m')
    (hslot : m.slots.find? p = some .pending) : m'.slots.find? p = some .pending ∨
      ∃ task, m.IsMounting task p ∧ EndsMount task e := by
  cases h.atPoint hm p with
  | kept hlists htakes hshuts hsame hlistings => exact Or.inl (hsame.trans hslot)
  | reserved task hcheck hfree hpending hlistings => exact Or.inl hpending
  | failed task fault hmounting he hfree hlistings =>
    exact Or.inr ⟨task, hmounting, Or.inr ⟨fault, he⟩⟩
  | activated task i hmounting he hactive hlistings => exact Or.inr ⟨task, hmounting, Or.inl he⟩
  | takenOut task q i he hsame hactive hfree hholds hlistings => cases hslot.symm.trans hactive
  | shutDown task i he hactive hfree hholds hlistings => cases hslot.symm.trans hactive

/-- The session of an active slot stays there until it is taken out. -/
theorem Effect.active_stays (hm : Sound m) (h : Effect fs s m e m')
    (hslot : m.slots.find? p = some (.active i)) : m'.slots.find? p = some (.active i) ∨
      m'.slots.find? p = none ∧ ∃ task, m.TakesSession task i e := by
  cases h.atPoint hm p with
  | kept hlists htakes hshuts hsame hlistings => exact Or.inl (hsame.trans hslot)
  | reserved task hcheck hfree hpending hlistings => cases hslot.symm.trans hfree
  | failed task fault hmounting he hfree hlistings =>
    cases hslot.symm.trans (hm.find?_of_isMounting hmounting)
  | activated task j hmounting he hactive hlistings =>
    cases hslot.symm.trans (hm.find?_of_isMounting hmounting)
  | takenOut task q j he hsame hactive hfree hholds hlistings =>
    cases hslot.symm.trans hactive
    refine Or.inr ⟨hfree, task, Or.inl ⟨q, he, ?_⟩⟩
    rw [Slots.find?_congr (Path.same_iff_key.mp hsame), hslot]
  | shutDown task j he hactive hfree hholds hlistings =>
    cases hslot.symm.trans hactive
    obtain ⟨q, hmem, -⟩ := Slots.mem_of_find? hslot
    exact Or.inr ⟨hfree, task, Or.inr ⟨he, Slots.mem_sessions_iff.mpr ⟨q, hmem⟩⟩⟩

/-- How an owner has come by a session: a mount has attached it and holds the pending slot of its mount
point, and an unmount or a shutdown has taken it out. -/
def CameBy (fs : FileSystem σ) (s : Setup) (start : Manager σ) (events : List ManagerEvent)
    (m : Manager σ) (i : SessionId) : Owner → Prop
  | .mounting task => Run.Happens (step fs s) start events (fun m e => m.Attaches task i e) ∧
      ∃ l, m.sessions[i]? = some l ∧ HasReserved fs s start events task l.descriptor.point ∧
        m.slots.find? l.descriptor.point = some .pending
  | .slot p => ∃ l, m.sessions[i]? = some l ∧ l.descriptor.point = p ∧
      m.slots.find? p = some (.active i)
  | .waiting task | .stopping task =>
    Run.Happens (step fs s) start events fun m e => m.TakesSession task i e

theorem run_cameBy (h : (empty files).run fs s events = some m) (howner : m.Owns i o) :
    CameBy fs s (empty files) events m i o := by
  have hm := run_sound h
  obtain ⟨l, hl⟩ := hm.exists_session (mem_held_iff.mpr ⟨o, howner⟩)
  cases o with
  | mounting task =>
    obtain ⟨d, purpose, hmem⟩ := owns_mounting_iff.mp howner
    have hpoint := hm.activating task d i purpose l hmem hl
    have hmounting : m.IsMounting task l.descriptor.point :=
      ⟨_, _, hm.task?_of_mem hmem, rfl, by rw [hpoint]; exact Path.same_refl _⟩
    exact ⟨(run_inCustody h i).attached task howner, l, hl, (isMounting_iff h).mp hmounting,
      hm.find?_of_isMounting hmounting⟩
  | slot p =>
    have hmem := owns_slot_iff.mp howner
    exact ⟨l, hl, hm.placed p i l hmem hl, Slots.find?_of_mem hm.distinct hmem rfl⟩
  | waiting task => exact (run_inCustody h i).taken task (Or.inl howner)
  | stopping task => exact (run_inCustody h i).taken task (Or.inr howner)

/-- Two mounts overlap: one begins while the other one is in progress. -/
def Overlap (fs : FileSystem σ) (s : Setup) (m : Manager σ) (events : List ManagerEvent)
    (a b : TaskId × Descriptor) : Prop :=
  BeginsDuring fs s m events a b ∨ BeginsDuring fs s m events b a

/-- Of mounts of one mount point that overlap, one at most is not refused. -/
theorem subsingleton_of_overlap {mounts : Set (TaskId × Descriptor)}
    (h : (empty files).run fs s events = some m)
    (hmounts : ∀ c ∈ mounts, (∃ target, c.2.validate = .ok target) ∧ c.2.point.same p = true)
    (hoverlap : mounts.Pairwise (Overlap fs s (empty files) events)) :
    {c ∈ mounts | ¬ m.Refused c}.Subsingleton := by
  intro a ha b hb
  by_contra hne
  obtain ⟨⟨target, hvalid⟩, hpoint⟩ := hmounts a ha.1
  obtain ⟨⟨target', hvalid'⟩, hpoint'⟩ := hmounts b hb.1
  rcases hoverlap ha.1 hb.1 hne with hduring | hduring
  · exact hb.2 (refused_of_beginsDuring h hvalid'
      (Path.same_trans hpoint (Path.same_symm hpoint')) hduring)
  · exact ha.2 (refused_of_beginsDuring h hvalid
      (Path.same_trans hpoint' (Path.same_symm hpoint)) hduring)

/-- From the moment at which it is attached until it has been stopped, a session has one owner: the
mount that has attached it and holds the pending slot of its mount point, an active slot, or the one
unmount or shutdown that has taken it out. No session is taken out twice or stopped twice. A slot is
pending where one operation has reserved it, and only that operation ends this; the session of an
active slot stays there until it is taken out. Of mounts of one mount point that overlap, one at most
is not refused. -/
theorem sessions_stay_in_custody (h : (empty files).run fs s events = some m) :
    (∀ i < m.sessions.length, (HasStopped fs s (empty files) events i ∧ ∀ o, ¬ m.Owns i o) ∨
      (¬ HasStopped fs s (empty files) events i ∧ ∃! o, m.Owns i o)) ∧
    (∀ i o, m.Owns i o → CameBy fs s (empty files) events m i o) ∧
    (∀ i, Run.AtMostOnce (step fs s) (empty files) events
        (fun m e => ∃ task, m.TakesSession task i e) ∧
      Run.AtMostOnce (step fs s) (empty files) events fun m e => m.BeginsStop i e) ∧
    (∀ p, m.slots.find? p = some .pending ↔
      ∃! task, HasReserved fs s (empty files) events task p) ∧
    (∀ e m' p, m.step fs s e = some m' →
      (m.slots.find? p = some .pending → m'.slots.find? p = some .pending ∨
        ∃ task, HasReserved fs s (empty files) events task p ∧ EndsMount task e) ∧
      ∀ i, m.slots.find? p = some (.active i) → m'.slots.find? p = some (.active i) ∨
        m'.slots.find? p = none ∧ ∃ task, m.TakesSession task i e) ∧
    (∀ p (mounts : Set (TaskId × Descriptor)), (∀ c ∈ mounts,
        (∃ target, c.2.validate = .ok target) ∧ c.2.point.same p = true) →
      mounts.Pairwise (Overlap fs s (empty files) events) →
      {c ∈ mounts | ¬ m.Refused c}.Subsingleton) := by
  have hm := run_sound h
  refine ⟨?_, fun i o => run_cameBy h, ?_, fun p => find?_eq_pending_iff h, ?_, ?_⟩
  · intro i hi
    have hcustody := run_inCustody h i
    by_cases hstopped : HasStopped fs s (empty files) events i
    · exact Or.inl ⟨hstopped, (hcustody.stopped hstopped).2⟩
    · obtain ⟨o, howner⟩ := (hcustody.owned hi).resolve_left hstopped
      exact Or.inr ⟨hstopped, o, howner, fun o' howner' => hm.eq_of_owns howner' howner⟩
  · intro i
    refine ⟨?_, ?_⟩
    · exact (passes_atMostOnce fs s files events i 2).mono fun m e ⟨task, h⟩ => h.passes
    · exact (passes_atMostOnce fs s files events i 3).mono fun m e h => h.passes
  · intro e m' p hstep
    have heffect := step_effect hstep
    refine ⟨fun hpending => ?_, fun i hactive => heffect.active_stays hm hactive⟩
    refine (heffect.pending_stays hm hpending).imp_right fun ⟨task, hmounting, hends⟩ => ?_
    exact ⟨task, (isMounting_iff h).mp hmounting, hends⟩
  · exact fun p mounts => subsingleton_of_overlap h

/-- Two mounts of one mount point overlap, and the session of the one that is not refused is being
stopped. -/
def contended : List ManagerEvent :=
  [.mount 0 sample, .mount 1 sample, .returned 0 (.ok ()), .activate 0, .unmount 2 sample.point]

theorem contended_run : ∃ m : Manager Files,
    (empty ⟨[]⟩).run Files.system plainSetup contended = some m ∧ m.sessions.length = 1 ∧
      m.task? 2 = some (.detaching 0 .save) ∧
      m.results = [(1, .error (.alreadyMounted sample.point)), (0, .ok .finished)] ∧
      ∃ target, sample.validate = .ok target :=
  ⟨_, rfl, rfl, rfl, rfl, _, rfl⟩

theorem sessions_stay_in_custody_contended : ∃ m : Manager Files,
    (empty ⟨[]⟩).run Files.system plainSetup contended = some m ∧ (∃! o, m.Owns 0 o) ∧
      m.Owns 0 (.stopping 2) ∧ m.Refused (1, sample) := by
  obtain ⟨m, hrun, hlength, htask, hresults, target, hvalid⟩ := contended_run
  have howner : m.Owns 0 (.stopping 2) := owns_of_task? htask List.mem_cons_self
  obtain ⟨howned, -, -, -, -, honce⟩ := sessions_stay_in_custody hrun
  refine ⟨m, hrun, ?_, howner, ?_⟩
  · rcases howned 0 (by rw [hlength]; decide) with ⟨-, hnone⟩ | ⟨-, hone⟩
    · exact absurd howner (hnone _)
    · exact hone
  · by_contra hfirst
    have hsecond : ¬ m.Refused (0, sample) := by simp [Refused, hresults]
    have hduring : BeginsDuring Files.system plainSetup (empty ⟨[]⟩) contended (0, sample)
        (1, sample) := ⟨[.mount 0 sample], _, _, rfl, rfl, List.mem_cons_self, rfl⟩
    have hsubsingleton := honce sample.point {(0, sample), (1, sample)} ?_ ?_
    · have heq := hsubsingleton ⟨Or.inl rfl, hsecond⟩ ⟨Or.inr rfl, hfirst⟩
      cases heq
    · rintro c (rfl | rfl) <;> exact ⟨⟨target, hvalid⟩, Path.same_refl _⟩
    · rintro a (rfl | rfl) b (rfl | rfl) hne
      · exact absurd rfl hne
      · exact Or.inl hduring
      · exact Or.inr hduring
      · exact absurd rfl hne

end Manager

end FsGateway.Gateway
