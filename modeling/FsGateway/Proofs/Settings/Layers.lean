import FsGateway.Settings.KeyPath
import Mathlib.Data.List.Nodup
import Mathlib.Data.List.TakeWhile

/-!
# Layers of settings

Sources are laid over each other member by member. A member changes only what stands under the name
that its path starts with. There it either replaces the whole value, which only the member with just
that name does, or it leaves a table or a list.

* `get?_assign`: what one member changes.
* `Overlaid.layer`: what a layer without a key leaves under the key.
* `overlaid_layer_of_mem`: what a layer puts under its own key.
-/

namespace FsGateway.Settings

open KeyPath (ofKey ofKey? steps? along isNameChar)

variable {key k : String} {x v old new : Value} {ms : List (String × Value)} {ss : List Step}

/-! ## Members -/

namespace Value

theorem lookup_cons_eq (k key : String) (v : Value) (ms : List (String × Value)) :
    List.lookup key ((k, v) :: ms) = if key = k then some v else ms.lookup key := by
  rw [List.lookup_cons]
  by_cases h : key = k
  · rw [if_pos h, h, beq_self_eq_true]
  · rw [if_neg h, beq_false_of_ne h]

theorem lookup_editMember (k key : String) (f : Value → Value) (ms : List (String × Value)) :
    (editMember k f ms).lookup key =
      if key = k then some (f ((ms.lookup k).getD .nil)) else ms.lookup key := by
  induction ms with
  | nil => rw [editMember, lookup_cons_eq, List.lookup_nil, List.lookup_nil, Option.getD_none]
  | cons m ms ih =>
    obtain ⟨k', v⟩ := m
    simp only [editMember]
    split
    · rename_i hk
      subst hk
      rw [lookup_cons_eq, lookup_cons_eq, lookup_cons_eq, if_pos rfl, Option.getD_some]
      split <;> rfl
    · rename_i hk
      rw [lookup_cons_eq, lookup_cons_eq, lookup_cons_eq, ih, if_neg (Ne.symm hk)]
      grind

theorem get?_edit (k key : String) (f : Value → Value) (v : Value) :
    (v.edit k f).get? key = if key = k then some (f ((v.get? k).getD .nil)) else v.get? key :=
  lookup_editMember k key f v.members

/-- A value with parts. -/
inductive IsCompound : Value → Prop
  | list : IsCompound .list
  | table (ms : List (String × Value)) : IsCompound (.table ms)

theorem text?_of_isCompound (h : v.IsCompound) : v.text? = none := by
  cases h <;> rfl

/-- What is no table replaces what it is laid over. -/
theorem assign_of_not_table (h : ∀ ms, new ≠ .table ms) (old : Value) : new.assign old = new := by
  cases new with
  | table ms => exact absurd rfl (h ms)
  | _ => rw [assign]; rintro _ ⟨⟩

end Value

/-! ## Paths -/

namespace KeyPath

theorem steps?_eq_nil {fuel : Nat} {cs : List Char} (h : steps? fuel cs = some []) : cs = [] := by
  unfold steps? at h
  split at h
  · cases h
  · rfl
  · simp only at h
    split at h
    · cases h
    · obtain ⟨ss, -, hnil⟩ := Option.map_eq_some_iff.mp h
      cases hnil
  · split at h
    · obtain ⟨ss, -, hnil⟩ := Option.map_eq_some_iff.mp h
      cases hnil
    · cases h
  · cases h

/-- A key without steps is a name. -/
theorem root_of_steps_eq_nil (h : (ofKey k).steps = []) : (ofKey k).root = k := by
  rw [ofKey] at h ⊢
  cases hp : ofKey? k with
  | none => rfl
  | some p =>
    rw [hp, Option.getD_some] at h
    rw [Option.getD_some]
    unfold ofKey? at hp
    simp only at hp
    split at hp
    · cases hp
    · obtain ⟨ss, hss, rfl⟩ := Option.map_eq_some_iff.mp hp
      have hrest := steps?_eq_nil (hss.trans (congrArg some h))
      have hname : k.toList.takeWhile isNameChar = k.toList := by
        conv_rhs => rw [← List.takeWhile_append_dropWhile (p := isNameChar) (l := k.toList), hrest,
          List.append_nil]
      simp only [hname, String.ofList_toList]

/-- A key that can stand in a path as a name. -/
def IsName (key : String) : Prop := key.toList ≠ [] ∧ key.toList.all isNameChar = true

theorem ofKey_of_isName (h : IsName key) : ofKey key = ⟨key, []⟩ := by
  have hchars := List.all_eq_true.mp h.2
  have hname : key.toList.takeWhile isNameChar = key.toList := List.takeWhile_eq_self_iff.mpr hchars
  have hrest : key.toList.dropWhile isNameChar = [] := List.dropWhile_eq_nil_iff.mpr hchars
  simp only [ofKey, ofKey?, hname, hrest, if_neg h.1, steps?, Option.map_some, Option.getD_some,
    String.ofList_toList]

theorem along_isCompound (f : Value → Value) (h : ss ≠ []) (v : Value) :
    (along f ss v).IsCompound := by
  cases ss with
  | nil => exact absurd rfl h
  | cons s ss =>
    cases s with
    | key k => exact .table _
    | position i => exact .list

theorem get?_assign (p : KeyPath) (new old : Value) (key : String) :
    (p.assign new old).get? key =
      if key = p.root then some (along new.assign p.steps ((old.get? key).getD .nil))
      else old.get? key := by
  rw [assign, Value.get?_edit]
  split
  · rename_i h
    rw [h]
  · rfl

end KeyPath

/-! ## Layers -/

namespace Value

/-- What stands under a key, unless a path that goes on below the key has put a list or a table in
its place. -/
def Overlaid (v : Value) (key : String) (x : Value) : Prop :=
  v.get? key = some x ∨ ∃ y, v.get? key = some y ∧ y.IsCompound

theorem layer_cons (k : String) (new : Value) (ms : List (String × Value)) (v : Value) :
    v.layer ((k, new) :: ms) = ((ofKey k).assign new v).layer ms := rfl

theorem layer_append (ms ns : List (String × Value)) (v : Value) :
    v.layer (ms ++ ns) = (v.layer ms).layer ns :=
  List.foldl_append

/-- A member with another key leaves a value, or puts a list or a table in its place. -/
theorem Overlaid.assign (h : v.Overlaid key x) (hk : k ≠ key) (new : Value) :
    ((ofKey k).assign new v).Overlaid key x := by
  rw [Overlaid, KeyPath.get?_assign]
  split
  · rename_i hroot
    have hsteps : (ofKey k).steps ≠ [] := fun hnil =>
      hk ((KeyPath.root_of_steps_eq_nil hnil).symm.trans hroot.symm)
    exact .inr ⟨_, rfl, KeyPath.along_isCompound _ hsteps _⟩
  · exact h

theorem Overlaid.layer (h : v.Overlaid key x) (hms : ∀ m ∈ ms, m.1 ≠ key) :
    (v.layer ms).Overlaid key x := by
  induction ms generalizing v with
  | nil => exact h
  | cons m ms ih =>
    obtain ⟨hm, hms⟩ := List.forall_mem_cons.mp hms
    exact ih (h.assign hm m.2) hms

/-- The member with a key puts its value there. -/
theorem overlaid_assign (hkey : KeyPath.IsName key) (hx : ∀ ms, x ≠ .table ms) (v : Value) :
    ((ofKey key).assign x v).Overlaid key x := by
  rw [Overlaid, KeyPath.get?_assign, KeyPath.ofKey_of_isName hkey, if_pos rfl, along,
    assign_of_not_table hx]
  exact .inl rfl

/-- What a layer puts under a key that one of its members has. -/
theorem overlaid_layer_of_mem (hkey : KeyPath.IsName key) (hx : ∀ ms, x ≠ .table ms)
    (hnodup : (ms.map Prod.fst).Nodup) (hmem : (key, x) ∈ ms) (v : Value) :
    (v.layer ms).Overlaid key x := by
  obtain ⟨before, after, rfl⟩ := List.append_of_mem hmem
  rw [layer_append, layer_cons]
  refine (overlaid_assign hkey hx _).layer fun m hm hmkey => ?_
  rw [List.map_append, List.map_cons] at hnodup
  have hafter := (List.nodup_cons.mp hnodup.of_append_right).1
  exact hafter (List.mem_map.mpr ⟨m, hm, hmkey⟩)

/-- What a layer leaves as it was. -/
theorem get?_layer_of_apart (h : ∀ m ∈ ms, (ofKey m.1).root ≠ key) (v : Value) :
    (v.layer ms).get? key = v.get? key := by
  induction ms generalizing v with
  | nil => rfl
  | cons m ms ih =>
    obtain ⟨hm, hms⟩ := List.forall_mem_cons.mp h
    rw [layer_cons, ih hms, KeyPath.get?_assign, if_neg (Ne.symm hm)]

/-- A layer of names without tables puts its values under them, and leaves all else. -/
theorem get?_layer_of_isName (hnames : ∀ m ∈ ms, KeyPath.IsName m.1)
    (htables : ∀ m ∈ ms, ∀ t, m.2 ≠ .table t) (hnodup : (ms.map Prod.fst).Nodup) (v : Value)
    (key : String) : (v.layer ms).get? key = (ms.lookup key).or (v.get? key) := by
  induction ms generalizing v with
  | nil => rfl
  | cons m ms ih =>
    obtain ⟨k, x⟩ := m
    obtain ⟨hname, hnames⟩ := List.forall_mem_cons.mp hnames
    obtain ⟨htable, htables⟩ := List.forall_mem_cons.mp htables
    obtain ⟨hfresh, hnodup⟩ := List.nodup_cons.mp hnodup
    rw [layer_cons, ih hnames htables hnodup, KeyPath.get?_assign, KeyPath.ofKey_of_isName hname,
      along, assign_of_not_table htable, lookup_cons_eq]
    by_cases hkey : key = k
    · subst hkey
      have hrest : ms.lookup key = none :=
        List.lookup_eq_none_iff.mpr fun m hm => bne_iff_ne.mpr fun heq =>
          hfresh (List.mem_map.mpr ⟨m, hm, heq.symm⟩)
      rw [hrest, if_pos rfl, if_pos rfl]
      rfl
    · rw [if_neg hkey, if_neg hkey]

end Value

end FsGateway.Settings
