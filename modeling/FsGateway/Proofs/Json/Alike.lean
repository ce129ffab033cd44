import FsGateway.Proofs.Json.Reading

/-!
# What a record does not depend on

The order of members, members with unknown names and the spelling of names leave the record that an
object stands for as it is. The same goes for the objects of records within it.

* `Schema.Alike`: objects that differ in nothing else.
* `Schema.Alike.stands_iff`: such objects stand for the same record, if for any.
* `Schema.ByName.exists_fits`: without fallbacks, each name of a record stands there once.
-/

namespace FsGateway.Json

open Node (IsNamed Sole Absent)

namespace Schema

variable {S : Type} [Scalars S] {s inner : Schema S} {name : String}
  {ms ms' : List (Bytes × Node)} {m : Bytes × Node} {raw : Bytes} {n n' : Node}

/-! ## Objects that are read alike -/

/-- A record has another record within it. -/
inductive Nests : Schema S → String → Schema S → Prop
  | here {name : String} {inner rest : Schema S} : Nests (.nested name inner rest) name inner
  | field {key name : String} {t : S} {fallback : Option (Scalars.Value t)} {inner rest : Schema S} :
      Nests rest name inner → Nests (.field key t fallback rest) name inner
  | nested {key name : String} {inner inner' rest : Schema S} :
      Nests rest name inner → Nests (.nested key inner' rest) name inner

/-- Members that make no difference to a record. -/
inductive Alike : Schema S → List (Bytes × Node) → List (Bytes × Node) → Prop
  | perm {s : Schema S} {ms ms' : List (Bytes × Node)} : ms.Perm ms' → Alike s ms ms'
  | unknown {s : Schema S} {name : String} {m : Bytes × Node} {ms : List (Bytes × Node)} :
      IsNamed name m → name ∉ s.names → Alike s ms (m :: ms)
  | respelled {s : Schema S} {name : String} {raw raw' : Bytes} {n : Node}
      {ms : List (Bytes × Node)} : IsNamed name (raw, n) → IsNamed name (raw', n) →
      Alike s ((raw, n) :: ms) ((raw', n) :: ms)
  | within {s inner : Schema S} {name : String} {raw : Bytes}
      {ms inside inside' : List (Bytes × Node)} :
      Nests s name inner → IsNamed name (raw, .object inside true) → Alike inner inside inside' →
      Alike s ((raw, .object inside true) :: ms) ((raw, .object inside' true) :: ms)
  | symm {s : Schema S} {ms ms' : List (Bytes × Node)} : Alike s ms ms' → Alike s ms' ms
  | trans {s : Schema S} {ms ms' ms'' : List (Bytes × Node)} :
      Alike s ms ms' → Alike s ms' ms'' → Alike s ms ms''

theorem Nests.mem_names (h : Nests s name inner) : name ∈ s.names := by
  induction h with
  | here => exact List.mem_cons_self
  | field _ ih | nested _ ih => exact List.mem_cons_of_mem _ ih

theorem Nests.distinct (h : Nests s name inner) (hs : s.Distinct) : inner.Distinct := by
  induction h with
  | here => exact hs.2.1
  | field _ ih => exact ih hs.2
  | nested _ ih => exact ih hs.2.2

variable [DenotedScalars S]

theorem stands_object_iff {v : s.Tuple} : Stands s (.object ms true) v ↔
    (∀ m ∈ ms, ∃ name, IsNamed name m) ∧ ByName s ms v := by
  constructor
  · intro h
    cases h with
    | object hnamed hv => exact ⟨hnamed, hv⟩
  · exact fun h => .object h.1 h.2

theorem byName_perm {v : s.Tuple} (hperm : ms.Perm ms') (h : ByName s ms v) : ByName s ms' v :=
  h.congr (fun _ _ _ hsole => hsole.perm hperm) fun _ _ habsent => habsent.perm hperm

/-- A member whose name is not one of the record's is passed over. -/
theorem byName_cons_iff {v : s.Tuple} (hm : IsNamed name m) (hname : name ∉ s.names) :
    ByName s (m :: ms) v ↔ ByName s ms v := by
  have hother : ∀ key ∈ s.names, ¬ IsNamed key m := by
    intro key hkey hm'
    rw [hm'.eq hm] at hkey
    exact hname hkey
  refine ⟨fun h => h.congr (fun key hkey n => ?_) fun key hkey => ?_,
    fun h => h.congr (fun key hkey n => ?_) fun key hkey => ?_⟩
  · exact (Node.sole_cons_of_not_named (hother key hkey)).mp
  · exact fun habsent => (Node.absent_cons.mp habsent).2
  · exact (Node.sole_cons_of_not_named (hother key hkey)).mpr
  · exact fun habsent => Node.absent_cons.mpr ⟨hother key hkey, habsent⟩

/-- Names count by what they spell. -/
theorem byName_respelled {v : s.Tuple} {raw' : Bytes} (hraw : IsNamed name (raw, n))
    (hraw' : IsNamed name (raw', n)) (h : ByName s ((raw, n) :: ms) v) :
    ByName s ((raw', n) :: ms) v := by
  have hiff : ∀ key, IsNamed key (raw, n) ↔ IsNamed key (raw', n) := fun key =>
    ⟨fun hkey => hkey.eq hraw ▸ hraw', fun hkey => hkey.eq hraw' ▸ hraw⟩
  refine h.congr (fun key _ k hsole => ?_) fun key _ habsent => ?_
  · by_cases hkey : IsNamed key (raw, n)
    · exact (Node.sole_cons_of_named ((hiff key).mp hkey)).mpr
        ((Node.sole_cons_of_named hkey).mp hsole)
    · exact (Node.sole_cons_of_not_named (mt (hiff key).mpr hkey)).mpr
        ((Node.sole_cons_of_not_named hkey).mp hsole)
  · obtain ⟨hkey, habsent⟩ := Node.absent_cons.mp habsent
    exact Node.absent_cons.mpr ⟨mt (hiff key).mpr hkey, habsent⟩

/-- The value of a member does not matter to fields with other names. -/
theorem byName_other {v : s.Tuple} (hraw : IsNamed name (raw, n)) (hname : name ∉ s.names)
    (h : ByName s ((raw, n) :: ms) v) : ByName s ((raw, n') :: ms) v :=
  (byName_cons_iff (m := (raw, n')) hraw hname).mpr ((byName_cons_iff hraw hname).mp h)

/-- The value of a member may be replaced by one that stands for the same record. -/
theorem byName_within {v : s.Tuple} (hnests : Nests s name inner) (hs : s.Distinct)
    (hraw : IsNamed name (raw, n)) (hmeaning : ∀ v, Stands inner n v → Stands inner n' v)
    (h : ByName s ((raw, n) :: ms) v) : ByName s ((raw, n') :: ms) v := by
  -- A field in front of the record within has another name.
  have hsole : ∀ {key k}, key ≠ name →
      Sole key k ((raw, n) :: ms) → Sole key k ((raw, n') :: ms) := by
    intro key k hkey hsole
    have hother : ¬ IsNamed key (raw, n) := fun hk => hkey (hk.eq hraw)
    exact (Node.sole_cons_of_not_named (m := (raw, n')) hother).mpr
      ((Node.sole_cons_of_not_named hother).mp hsole)
  induction hnests with
  | here =>
    obtain ⟨v, vs⟩ := v
    obtain ⟨⟨k, hsole, hv⟩, hrest⟩ := byName_nested_iff.mp h
    obtain ⟨rfl, habsent⟩ := (Node.sole_cons_of_named hraw).mp hsole
    refine byName_nested_iff.mpr ⟨⟨n', ?_, hmeaning v hv⟩, byName_other hraw hs.1 hrest⟩
    exact (Node.sole_cons_of_named (m := (raw, n')) hraw).mpr ⟨rfl, habsent⟩
  | field hnests ih =>
    obtain ⟨v, vs⟩ := v
    obtain ⟨hfield, hrest⟩ := byName_field_iff.mp h
    refine byName_field_iff.mpr ⟨?_, ih hs.2 hraw hmeaning hrest hsole⟩
    have hkey := ne_of_mem_of_not_mem hnests.mem_names hs.1
    rcases hfield with ⟨k, hk, hv⟩ | ⟨habsent, hv⟩
    · exact .inl ⟨k, hsole hkey.symm hk, hv⟩
    · obtain ⟨hother, habsent⟩ := Node.absent_cons.mp habsent
      exact .inr ⟨Node.absent_cons.mpr ⟨hother, habsent⟩, hv⟩
  | nested hnests ih =>
    obtain ⟨v, vs⟩ := v
    obtain ⟨⟨k, hk, hv⟩, hrest⟩ := byName_nested_iff.mp h
    have hkey := ne_of_mem_of_not_mem hnests.mem_names hs.1
    exact byName_nested_iff.mpr ⟨⟨k, hsole hkey.symm hk, hv⟩, ih hs.2.2 hraw hmeaning hrest hsole⟩

theorem forall_named_cons_congr (h : (∃ name, IsNamed name m) ↔ ∃ name, IsNamed name (raw, n)) :
    (∀ m' ∈ m :: ms, ∃ name, IsNamed name m') ↔ ∀ m' ∈ (raw, n) :: ms, ∃ name, IsNamed name m' := by
  rw [List.forall_mem_cons, List.forall_mem_cons, h]

/-- Objects that differ in nothing that matters stand for the same record, if for any. -/
theorem Alike.stands_iff (h : Alike s ms ms') (hs : s.Distinct) (v : s.Tuple) :
    Stands s (.object ms true) v ↔ Stands s (.object ms' true) v := by
  induction h with
  | perm hperm =>
    rw [stands_object_iff, stands_object_iff]
    exact and_congr (forall_congr' fun m => imp_congr_left hperm.mem_iff)
      ⟨byName_perm hperm, byName_perm hperm.symm⟩
  | unknown hm hname =>
    rw [stands_object_iff, stands_object_iff, byName_cons_iff hm hname, List.forall_mem_cons]
    exact and_congr_left' (and_iff_right ⟨_, hm⟩).symm
  | respelled hraw hraw' =>
    rw [stands_object_iff, stands_object_iff]
    exact and_congr (forall_named_cons_congr (iff_of_true ⟨_, hraw⟩ ⟨_, hraw'⟩))
      ⟨byName_respelled hraw hraw', byName_respelled hraw' hraw⟩
  | within hnests hraw _ ih =>
    have hmeaning := ih (hnests.distinct hs)
    rw [stands_object_iff, stands_object_iff]
    exact and_congr (forall_named_cons_congr (iff_of_true ⟨_, hraw⟩ ⟨_, hraw⟩))
      ⟨byName_within hnests hs hraw fun v => (hmeaning v).mp,
        byName_within hnests hs hraw fun v => (hmeaning v).mpr⟩
  | symm _ ih => exact (ih hs v).symm
  | trans _ _ ih ih' => exact (ih hs v).trans (ih' hs v)

/-! ## Names that must stand there -/

/-- No field of a record may be left out. -/
def Required : Schema S → Prop
  | done => True
  | field _ _ fallback rest => fallback.isNone = true ∧ rest.Required
  | nested _ inner rest => inner.Required ∧ rest.Required

instance decidableRequired : (s : Schema S) → Decidable s.Required
  | done => inferInstanceAs (Decidable True)
  | field _ _ fallback rest =>
    have := decidableRequired rest
    inferInstanceAs (Decidable (fallback.isNone = true ∧ rest.Required))
  | nested _ inner rest =>
    have := decidableRequired inner
    have := decidableRequired rest
    inferInstanceAs (Decidable (inner.Required ∧ rest.Required))

/-- A node stands for a value that the field of a name can have. -/
inductive Fits : Schema S → String → Node → Prop
  | field {name : String} {t : S} {fallback : Option (Scalars.Value t)} {rest : Schema S} {n : Node}
      {v : Scalars.Value t} : DenotedScalars.Denotes t n v → Fits (.field name t fallback rest) name n
  | nested {name : String} {inner rest : Schema S} {n : Node} {v : inner.Tuple} :
      Stands inner n v → Fits (.nested name inner rest) name n
  | afterField {key name : String} {t : S} {fallback : Option (Scalars.Value t)} {rest : Schema S}
      {n : Node} : Fits rest name n → Fits (.field key t fallback rest) name n
  | afterNested {key name : String} {inner rest : Schema S} {n : Node} :
      Fits rest name n → Fits (.nested key inner rest) name n

/-- Each name of a record stands among the members exactly once, with a value that fits. -/
theorem ByName.exists_fits {v : s.Tuple} (h : ByName s ms v) (hs : s.Required) :
    ∀ name ∈ s.names, ∃ n, Sole name n ms ∧ Fits s name n := by
  induction s with
  | done => exact List.forall_mem_nil _
  | field name t fallback rest ih =>
    obtain ⟨v, vs⟩ := v
    obtain ⟨hfield, hrest⟩ := byName_field_iff.mp h
    refine List.forall_mem_cons.mpr ⟨?_, fun key hkey => ?_⟩
    · rcases hfield with ⟨n, hn, hv⟩ | ⟨-, rfl⟩
      · exact ⟨n, hn, .field hv⟩
      · cases hs.1
    · obtain ⟨n, hn, hfits⟩ := ih hrest hs.2 key hkey
      exact ⟨n, hn, .afterField hfits⟩
  | nested name inner rest _ ih =>
    obtain ⟨v, vs⟩ := v
    obtain ⟨⟨n, hn, hv⟩, hrest⟩ := byName_nested_iff.mp h
    refine List.forall_mem_cons.mpr ⟨⟨n, hn, .nested hv⟩, fun key hkey => ?_⟩
    obtain ⟨n, hn, hfits⟩ := ih hrest hs.2 key hkey
    exact ⟨n, hn, .afterNested hfits⟩

end Schema

end FsGateway.Json
