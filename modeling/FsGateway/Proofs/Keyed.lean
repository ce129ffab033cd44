import Mathlib.Data.List.Nodup
import Mathlib.Data.List.Pairwise
import Mathlib.Data.List.Perm.Basic

/-!
# Lists with keys

Workers are known by their tickets, tasks by their numbers and slots by their mount points. Where no
key occurs twice, the list without a key is the list less one entry.
-/

namespace FsGateway.Keyed

variable {α κ : Type} [DecidableEq κ] {key : α → κ} {l : List α} {a : α}

/-- An entry, and the list without its key. -/
theorem perm_cons_filter (hn : (l.map key).Nodup) (ha : a ∈ l) :
    l.Perm (a :: l.filter fun x => key x ≠ key a) := by
  have hl : l.Nodup := List.Nodup.of_map key hn
  have hout : a ∉ l.filter fun x => key x ≠ key a := by simp
  refine (List.perm_ext_iff_of_nodup hl (List.nodup_cons.mpr ⟨hout, hl.filter _⟩)).mpr ?_
  intro x
  rw [List.mem_cons, List.mem_filter, decide_eq_true_eq]
  constructor
  · intro hx
    by_cases h : key x = key a
    · exact Or.inl (List.inj_on_of_nodup_map hn hx ha h)
    · exact Or.inr ⟨hx, h⟩
  · rintro (rfl | ⟨hx, -⟩)
    · exact ha
    · exact hx

/-- Only one entry has its key. -/
theorem filter_eq_singleton (hn : (l.map key).Nodup) (ha : a ∈ l) :
    l.filter (fun x => key x = key a) = [a] := by
  have hperm := (perm_cons_filter hn ha).filter fun x => key x = key a
  have hrest : (l.filter fun x => key x ≠ key a).filter (fun x => key x = key a) = [] := by
    rw [List.filter_eq_nil_iff]
    intro x hx
    simpa using (List.mem_filter.mp hx).2
  rw [List.filter_cons_of_pos (by simp), hrest] at hperm
  exact List.perm_singleton.mp hperm

omit [DecidableEq κ] in
/-- Where some entries have keys, two entries with one key are one. -/
theorem eq_of_filterMap {f : α → Option κ} {b : α} {k : κ} (hn : (l.filterMap f).Nodup)
    (ha : a ∈ l) (hb : b ∈ l) (hfa : f a = some k) (hfb : f b = some k) : a = b := by
  by_contra hne
  have hapart := List.pairwise_filterMap.mp hn
  have hsymm : Std.Symm fun a b => ∀ x, f a = some x → ∀ y, f b = some y → x ≠ y :=
    ⟨fun a b h x hx y hy => (h y hy x hx).symm⟩
  exact hapart.forall ha hb hne k hfa k hfb rfl

/-- Where entries are left out by their keys, the others are found as before. -/
theorem lookup_filter {ι β : Type} [BEq ι] [LawfulBEq ι] (p : ι → Bool) (k : ι)
    (l : List (ι × β)) :
    (l.filter fun e => p e.1).lookup k = if p k then l.lookup k else none := by
  induction l with
  | nil => simp
  | cons e l ih =>
    obtain ⟨key, b⟩ := e
    by_cases hkey : p key
    · have hkeep : ((key, b) :: l).filter (fun e => p e.1) = (key, b) :: l.filter fun e => p e.1 :=
        List.filter_cons_of_pos hkey
      rw [hkeep, List.lookup_cons, List.lookup_cons, ih]
      cases h : k == key with
      | true => simp [eq_of_beq h, hkey]
      | false => simp
    · have hdrop : ((key, b) :: l).filter (fun e => p e.1) = l.filter fun e => p e.1 :=
        List.filter_cons_of_neg hkey
      rw [hdrop, ih, List.lookup_cons]
      cases h : k == key with
      | true => simp [eq_of_beq h, hkey]
      | false => simp

/-- Where no key occurs twice, an entry is found by its key. -/
theorem lookup_eq_some_iff {ι β : Type} [BEq ι] [LawfulBEq ι] {l : List (ι × β)} {k : ι} {b : β}
    (hn : (l.map Prod.fst).Nodup) : l.lookup k = some b ↔ (k, b) ∈ l := by
  induction l with
  | nil => simp
  | cons e l ih =>
    obtain ⟨key, a⟩ := e
    rw [List.map_cons, List.nodup_cons] at hn
    rw [List.lookup_cons, List.mem_cons]
    cases h : k == key with
    | true =>
      have hkey : k = key := eq_of_beq h
      subst hkey
      have hout : (k, b) ∉ l := fun hmem => hn.1 (List.mem_map.mpr ⟨(k, b), hmem, rfl⟩)
      simp [hout, eq_comm]
    | false =>
      have hne : k ≠ key := ne_of_beq_false h
      simp [ih hn.2, hne]

end FsGateway.Keyed
