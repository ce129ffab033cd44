import FsGateway.Gateway.Manager
import FsGateway.Proofs.Keyed
import FsGateway.Proofs.Mount.Path

/-!
# Slots

Equal paths name one mount point, so the slots are a list with keys. No mount point is taken twice.

* `Slots.Distinct`: no mount point is taken twice.
* `Slots.perm_erase`: the slots are the slot of a mount point and those without it.
-/

namespace FsGateway.Gateway.Slots

open Mount (Path)

variable {s t : Slots} {p q : Path} {slot : Slot} {e : Path × Slot}

/-- No mount point is taken twice. -/
def Distinct (s : Slots) : Prop := (s.map fun e => e.1.key).Nodup

theorem erase_eq_filter (s : Slots) (p : Path) : s.erase p = s.filter fun e => e.1.key ≠ p.key := by
  refine List.filter_congr fun e _ => ?_
  by_cases h : e.1.key = p.key
  · simp [h, Path.same_iff_key.mpr h]
  · have hsame : e.1.same p = false := by
      rw [← Bool.not_eq_true, Path.same_iff_key]
      exact h
    simp [h, hsame]

/-! ## Finding -/

theorem find?_eq_none_iff : s.find? p = none ↔ ∀ e ∈ s, e.1.key ≠ p.key := by
  simp [find?, List.find?_eq_none, ← Path.same_iff_key]

/-- A slot is found under a path that names its mount point. -/
theorem mem_of_find? (h : s.find? p = some slot) : ∃ q, (q, slot) ∈ s ∧ q.key = p.key := by
  obtain ⟨e, he, rfl⟩ := Option.map_eq_some_iff.mp h
  have hsame : e.1.same p = true := by simpa using List.find?_some he
  exact ⟨e.1, List.mem_of_find?_eq_some he, Path.same_iff_key.mp hsame⟩

/-- A mount point whose slot is there is found. -/
theorem find?_ne_none (he : e ∈ s) (hp : e.1.key = p.key) : s.find? p ≠ none := by
  rw [Ne, find?_eq_none_iff]
  exact fun h => h e he hp

/-- Equal paths find one slot. -/
theorem find?_congr (h : p.key = q.key) : s.find? p = s.find? q := by
  have hsame : (fun e : Path × Slot => e.1.same p) = fun e => e.1.same q := by
    funext e
    rw [Bool.eq_iff_iff, Path.same_iff_key, Path.same_iff_key, h]
  rw [find?, find?, hsame]

/-! ## Erasing and inserting -/

theorem erase_of_find?_eq_none (h : s.find? p = none) : s.erase p = s := by
  rw [erase_eq_filter, List.filter_eq_self]
  simpa using find?_eq_none_iff.mp h

theorem insert_of_find?_eq_none (h : s.find? p = none) : s.insert p slot = s ++ [(p, slot)] := by
  rw [insert, erase_of_find?_eq_none h]

/-- The slots are the slot of a mount point and those without it. -/
theorem perm_erase (hs : s.Distinct) (he : e ∈ s) (hp : e.1.key = p.key) :
    List.Perm s (e :: s.erase p) := by
  rw [erase_eq_filter, ← hp]
  exact Keyed.perm_cons_filter hs he

theorem Distinct.erase (hs : s.Distinct) (p : Path) : (s.erase p).Distinct :=
  hs.sublist (List.filter_sublist.map _)

theorem Distinct.pending (hs : s.Distinct) : s.pending.Distinct :=
  hs.sublist (List.filter_sublist.map _)

theorem Distinct.insert (hs : s.Distinct) (p : Path) (slot : Slot) : (s.insert p slot).Distinct := by
  have hout : p.key ∉ (s.erase p).map fun e => e.1.key := by
    rw [erase_eq_filter]
    simp
  have hcons : (p.key :: (s.erase p).map fun e => e.1.key).Nodup :=
    List.nodup_cons.mpr ⟨hout, hs.erase p⟩
  rw [Distinct, Slots.insert, List.map_append]
  exact (List.perm_append_singleton _ _).nodup_iff.mpr hcons

/-- A mount point that was free is free again. -/
theorem erase_insert (h : s.find? p = none) : (s.insert p slot).erase p = s := by
  rw [insert_of_find?_eq_none h, erase_eq_filter, List.filter_append, ← erase_eq_filter,
    erase_of_find?_eq_none h]
  simp

theorem insert_insert {slot' : Slot} (h : s.find? p = none) :
    (s.insert p slot).insert p slot' = s.insert p slot' := by
  rw [insert, erase_insert h, insert_of_find?_eq_none h]

theorem find?_erase_self (h : q.key = p.key) : (s.erase p).find? q = none := by
  rw [find?_eq_none_iff, erase_eq_filter, h]
  intro e he
  simpa using (List.mem_filter.mp he).2

theorem find?_insert (hq : q.same p = true) : (s.insert p slot).find? q = some slot := by
  have herase := find?_erase_self (s := s) (Path.same_iff_key.mp hq)
  have hnone : List.find? (fun e => e.1.same q) (s.erase p) = none := by
    simpa [find?] using herase
  rw [insert, find?, List.find?_append, hnone]
  simp [Path.same_symm hq]

theorem find?_of_mem (hs : s.Distinct) (he : e ∈ s) (hp : e.1.key = p.key) :
    s.find? p = some e.2 := by
  cases hfind : s.find? p with
  | none => exact absurd hfind (find?_ne_none he hp)
  | some slot =>
    obtain ⟨q, hq, hkey⟩ := mem_of_find? hfind
    rw [List.inj_on_of_nodup_map hs he hq (hp.trans hkey.symm)]

/-- Another mount point is found as before. -/
theorem find?_erase_ne (h : q.key ≠ p.key) : (s.erase p).find? q = s.find? q := by
  have hboth : ∀ e : Path × Slot, (e.1.key ≠ p.key ∧ e.1.same q = true) ↔ e.1.same q = true := by
    intro e
    rw [and_iff_right_iff_imp, Path.same_iff_key]
    intro hq
    rw [hq]
    exact h
  rw [find?, find?, erase_eq_filter, List.find?_filter]
  simp only [decide_eq_true_eq, hboth, Bool.decide_eq_true]

theorem find?_insert_ne (h : q.key ≠ p.key) : (s.insert p slot).find? q = s.find? q := by
  have hnot : ¬ p.same q = true := fun hsame => h (Path.same_iff_key.mp hsame).symm
  have herase := find?_erase_ne (s := s) h
  rw [← herase, insert, find?, List.find?_append]
  simp [find?, hnot]

/-- Of the slots that are not active, a mount point is found if its slot is not active. -/
theorem find?_pending (hs : s.Distinct) (p : Path) :
    s.pending.find? p = (s.find? p).filter (· = .pending) := by
  cases hfind : s.find? p with
  | none =>
    refine find?_eq_none_iff.mpr fun e he => ?_
    exact find?_eq_none_iff.mp hfind e (List.mem_of_mem_filter he)
  | some slot =>
    obtain ⟨q, hq, hkey⟩ := mem_of_find? hfind
    cases slot with
    | pending => exact find?_of_mem hs.pending (List.mem_filter.mpr ⟨hq, by simp⟩) hkey
    | active i =>
      refine find?_eq_none_iff.mpr fun e he hp => ?_
      have hpending : e.2 = .pending := by simpa using (List.mem_filter.mp he).2
      have heq := List.inj_on_of_nodup_map hs (List.mem_of_mem_filter he) hq (hp.trans hkey.symm)
      rw [heq] at hpending
      cases hpending

/-! ## Active and pending slots -/

/-- The mount points that operations are about to mount. -/
def reserved (s : Slots) : List Path := s.pending.map (·.1)

theorem sessions_perm (h : List.Perm s t) : s.sessions.Perm t.sessions := h.filterMap _

theorem reserved_perm (h : List.Perm s t) : s.reserved.Perm t.reserved :=
  (h.filter _).map _

@[simp] theorem sessions_append : sessions (s ++ t) = s.sessions ++ t.sessions :=
  List.filterMap_append

@[simp] theorem sessions_cons_active (i : SessionId) :
    sessions ((p, .active i) :: s) = i :: s.sessions := rfl

@[simp] theorem sessions_cons_pending : sessions ((p, .pending) :: s) = s.sessions := rfl

@[simp] theorem reserved_append : reserved (s ++ t) = s.reserved ++ t.reserved := by
  simp [reserved, pending]

@[simp] theorem sessions_pending : s.pending.sessions = [] := by
  refine List.filterMap_eq_nil_iff.mpr fun e he => ?_
  have hslot : e.2 = .pending := by simpa [pending] using (List.mem_filter.mp he).2
  rw [hslot]

@[simp] theorem reserved_pending : s.pending.reserved = s.reserved := by
  simp [reserved, pending]

theorem mem_reserved_iff : p ∈ s.reserved ↔ (p, .pending) ∈ s := by
  simp [reserved, pending]

theorem mem_sessions_iff {i : SessionId} : i ∈ s.sessions ↔ ∃ p, (p, .active i) ∈ s := by
  constructor
  · intro h
    obtain ⟨⟨p, slot⟩, he, hi⟩ := List.mem_filterMap.mp h
    cases slot with
    | pending => cases hi
    | active j =>
      cases hi
      exact ⟨p, he⟩
  · rintro ⟨p, h⟩
    exact List.mem_filterMap.mpr ⟨(p, .active i), h, rfl⟩

end FsGateway.Gateway.Slots
