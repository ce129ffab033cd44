import FsGateway.Proofs.Json.Members
import FsGateway.Proofs.Json.Records
import FsGateway.Proofs.Outcome

/-!
# What records are read from

A record is read from an object by the names of its members alone. Each field has one member, and
members with other names are passed over, whatever they hold. A record within the record may also be
an array of its fields in order.

* `DenotedScalars`: scalars of which it is known what nodes stand for them.
* `Schema.Stands`: a node stands for a record.
* `Schema.ofNode_eq_ok_iff`: a record is read from the nodes that stand for it, and from no other.
* `readDocument_eq_ok_iff`: a reader gets the node that the text is a document of.
-/

namespace FsGateway.Json

open Node (WellFormed MemberWellFormed IsNamed Sole Absent)

/-- Scalars of which it is known what nodes stand for them. -/
class DenotedScalars (S : Type) [Scalars S] where
  /-- A node stands for a value. -/
  Denotes (t : S) : Node → Scalars.Value t → Prop
  ofNode_eq_ok_iff {t : S} {n : Node} {v : Scalars.Value t} :
    n.WellFormed → (Scalars.ofNode t n = .ok v ↔ Denotes t n v)

namespace Schema

variable {S : Type} [Scalars S] {s rest inner : Schema S} {t : S} {name : String}
  {fallback : Option (Scalars.Value t)} {n : Node} {ms : List (Bytes × Node)} {items : List Node}

section Meaning

variable [DenotedScalars S]

mutual

/-- A node stands for a record. -/
inductive Stands : (s : Schema S) → Node → s.Tuple → Prop
  | object {s : Schema S} {ms : List (Bytes × Node)} {v : s.Tuple} :
      (∀ m ∈ ms, ∃ name, IsNamed name m) → ByName s ms v → Stands s (.object ms true) v
  | array {s : Schema S} {items : List Node} {v : s.Tuple} :
      InOrder s items v → Stands s (.array items true) v

/-- Members stand for the fields that they have the names of. -/
inductive ByName : (s : Schema S) → List (Bytes × Node) → s.Tuple → Prop
  | done {ms : List (Bytes × Node)} : ByName .done ms ()
  | field {name : String} {t : S} {fallback : Option (Scalars.Value t)} {rest : Schema S} {n : Node}
      {ms : List (Bytes × Node)} {v : Scalars.Value t} {vs : rest.Tuple} :
      Sole name n ms → DenotedScalars.Denotes t n v → ByName rest ms vs →
      ByName (.field name t fallback rest) ms (v, vs)
  /-- A field that may be left out has its fallback. -/
  | omitted {name : String} {t : S} {rest : Schema S} {ms : List (Bytes × Node)}
      {v : Scalars.Value t} {vs : rest.Tuple} :
      Absent name ms → ByName rest ms vs → ByName (.field name t (some v) rest) ms (v, vs)
  | nested {name : String} {inner rest : Schema S} {n : Node} {ms : List (Bytes × Node)}
      {v : inner.Tuple} {vs : rest.Tuple} :
      Sole name n ms → Stands inner n v → ByName rest ms vs →
      ByName (.nested name inner rest) ms (v, vs)

/-- Items stand for the fields in their order. Only fields that may be left out can have no item. -/
inductive InOrder : (s : Schema S) → List Node → s.Tuple → Prop
  | done : InOrder .done [] ()
  | field {name : String} {t : S} {fallback : Option (Scalars.Value t)} {rest : Schema S} {n : Node}
      {items : List Node} {v : Scalars.Value t} {vs : rest.Tuple} :
      DenotedScalars.Denotes t n v → InOrder rest items vs →
      InOrder (.field name t fallback rest) (n :: items) (v, vs)
  | omitted {name : String} {t : S} {rest : Schema S} {v : Scalars.Value t} {vs : rest.Tuple} :
      InOrder rest [] vs → InOrder (.field name t (some v) rest) [] (v, vs)
  | nested {name : String} {inner rest : Schema S} {n : Node} {items : List Node}
      {v : inner.Tuple} {vs : rest.Tuple} :
      Stands inner n v → InOrder rest items vs →
      InOrder (.nested name inner rest) (n :: items) (v, vs)

end

theorem byName_field_iff {v : Scalars.Value t} {vs : rest.Tuple} :
    ByName (.field name t fallback rest) ms (v, vs) ↔
      ((∃ n, Sole name n ms ∧ DenotedScalars.Denotes t n v) ∨ Absent name ms ∧ fallback = some v) ∧
        ByName rest ms vs := by
  constructor
  · intro h
    cases h with
    | field hsole hv hrest => exact ⟨.inl ⟨_, hsole, hv⟩, hrest⟩
    | omitted habsent hrest => exact ⟨.inr ⟨habsent, rfl⟩, hrest⟩
  · rintro ⟨⟨n, hsole, hv⟩ | ⟨habsent, rfl⟩, hrest⟩
    · exact .field hsole hv hrest
    · exact .omitted habsent hrest

theorem byName_nested_iff {v : inner.Tuple} {vs : rest.Tuple} :
    ByName (.nested name inner rest) ms (v, vs) ↔
      (∃ n, Sole name n ms ∧ Stands inner n v) ∧ ByName rest ms vs := by
  constructor
  · intro h
    cases h with
    | nested hsole hv hrest => exact ⟨⟨_, hsole, hv⟩, hrest⟩
  · rintro ⟨⟨n, hsole, hv⟩, hrest⟩
    exact .nested hsole hv hrest

/-- Only the members with names of the record matter. -/
theorem ByName.congr {ms' : List (Bytes × Node)} {v : s.Tuple} (h : ByName s ms v)
    (hsole : ∀ name ∈ s.names, ∀ n, Sole name n ms → Sole name n ms')
    (habsent : ∀ name ∈ s.names, Absent name ms → Absent name ms') : ByName s ms' v := by
  induction s with
  | done => exact .done
  | field name t fallback rest ih =>
    obtain ⟨v, vs⟩ := v
    obtain ⟨hfield, hrest⟩ := byName_field_iff.mp h
    obtain ⟨hsole₁, hsole₂⟩ := List.forall_mem_cons.mp hsole
    obtain ⟨habsent₁, habsent₂⟩ := List.forall_mem_cons.mp habsent
    refine byName_field_iff.mpr ⟨?_, ih hrest hsole₂ habsent₂⟩
    rcases hfield with ⟨n, hn, hv⟩ | ⟨hname, hv⟩
    · exact .inl ⟨n, hsole₁ n hn, hv⟩
    · exact .inr ⟨habsent₁ hname, hv⟩
  | nested name inner rest _ ih =>
    obtain ⟨v, vs⟩ := v
    obtain ⟨⟨n, hn, hv⟩, hrest⟩ := byName_nested_iff.mp h
    obtain ⟨hsole₁, hsole₂⟩ := List.forall_mem_cons.mp hsole
    obtain ⟨-, habsent₂⟩ := List.forall_mem_cons.mp habsent
    exact byName_nested_iff.mpr ⟨⟨n, hsole₁ n hn, hv⟩, ih hrest hsole₂ habsent₂⟩

end Meaning

/-! ## One field among members -/

/-- The members that do not have a name. -/
def others (name : String) (ms : List (Bytes × Node)) : List (Bytes × Node) :=
  ms.filter fun m => Text.value? m.1 ≠ some name

theorem others_cons_of_named {m : Bytes × Node} (h : IsNamed name m) :
    others name (m :: ms) = others name ms := by
  rw [others, List.filter_cons_of_neg (by simpa using (Text.value?_eq_some_iff h.rawForm).mpr h),
    others]

theorem others_cons_of_not_named {m : Bytes × Node} (hm : MemberWellFormed m)
    (h : ¬ IsNamed name m) : others name (m :: ms) = m :: others name ms := by
  rw [others, List.filter_cons_of_pos (by simpa using fun heq => h (hm.value?_eq_some_iff.mp heq)),
    others]

theorem mem_of_mem_others {m : Bytes × Node} (h : m ∈ others name ms) : m ∈ ms :=
  List.mem_of_mem_filter h

/-- The members without one name have all other names as before. -/
theorem others_spec {name' : String} (hne : name' ≠ name) (hms : ∀ m ∈ ms, MemberWellFormed m) :
    (∀ n, Sole name' n (others name ms) ↔ Sole name' n ms) ∧
      (Absent name' (others name ms) ↔ Absent name' ms) := by
  induction ms with
  | nil => exact ⟨fun n => Iff.rfl, Iff.rfl⟩
  | cons m ms ih =>
    obtain ⟨hm, hms⟩ := List.forall_mem_cons.mp hms
    obtain ⟨hsole, habsent⟩ := ih hms
    by_cases hname : IsNamed name m
    · have hname' : ¬ IsNamed name' m := fun h => hne (h.eq hname)
      rw [others_cons_of_named hname]
      refine ⟨fun n => ?_, ?_⟩
      · rw [Node.sole_cons_of_not_named hname', hsole]
      · rw [Node.absent_cons, habsent]
        exact (and_iff_right hname').symm
    · rw [others_cons_of_not_named hm hname]
      refine ⟨fun n => ?_, ?_⟩
      · by_cases hname' : IsNamed name' m
        · rw [Node.sole_cons_of_named hname', Node.sole_cons_of_named hname', habsent]
        · rw [Node.sole_cons_of_not_named hname', Node.sole_cons_of_not_named hname', hsole]
      · rw [Node.absent_cons, Node.absent_cons, habsent]

/-- What a field holds after members have been read. -/
def Takes {α : Type} (read : Node → Except Fault α) (name : String) (ms : List (Bytes × Node))
    (slot slot' : Option α) : Prop :=
  Absent name ms ∧ slot' = slot ∨
    slot = none ∧ ∃ n v, Sole name n ms ∧ read n = .ok v ∧ slot' = some v

section Takes

variable {α : Type} {read : Node → Except Fault α} {slot slot' : Option α} {m : Bytes × Node}

theorem takes_nil : Takes read name [] slot slot' ↔ slot' = slot := by
  constructor
  · rintro (⟨-, h⟩ | ⟨-, n, v, hsole, -⟩)
    · exact h
    · exact absurd hsole Node.not_sole_nil
  · exact fun h => .inl ⟨List.forall_mem_nil _, h⟩

theorem takes_cons_of_not_named (h : ¬ IsNamed name m) :
    Takes read name (m :: ms) slot slot' ↔ Takes read name ms slot slot' := by
  simp only [Takes, Node.absent_cons, h, not_false_iff, true_and, Node.sole_cons_of_not_named h]

/-- A field that has been read is not read again. -/
theorem not_takes_some {v : α} (h : IsNamed name m) :
    ¬ Takes read name (m :: ms) (some v) slot' := by
  rintro (⟨habsent, -⟩ | ⟨hnone, -⟩)
  · exact (Node.absent_cons.mp habsent).1 h
  · cases hnone

/-- The first member with the name is read into the field, and no other member may have it. -/
theorem takes_cons_of_named (h : IsNamed name m) :
    Takes read name (m :: ms) none slot' ↔
      ∃ v, read m.2 = .ok v ∧ Takes read name ms (some v) slot' := by
  constructor
  · rintro (⟨habsent, -⟩ | ⟨-, n, v, hsole, hread, hslot⟩)
    · exact absurd h (Node.absent_cons.mp habsent).1
    · obtain ⟨rfl, habsent⟩ := (Node.sole_cons_of_named h).mp hsole
      exact ⟨v, hread, .inl ⟨habsent, hslot⟩⟩
  · rintro ⟨v, hread, ⟨habsent, hslot⟩ | ⟨hnone, -⟩⟩
    · exact .inr ⟨rfl, m.2, v, (Node.sole_cons_of_named h).mpr ⟨rfl, habsent⟩, hread, hslot⟩
    · cases hnone

theorem exists_takes_iff {P : Option α → Prop} :
    (∃ slot, Takes read name ms none slot ∧ P slot) ↔
      (∃ n v, Sole name n ms ∧ read n = .ok v ∧ P (some v)) ∨ Absent name ms ∧ P none := by
  constructor
  · rintro ⟨slot, ⟨habsent, rfl⟩ | ⟨-, n, v, hsole, hread, rfl⟩, hp⟩
    · exact .inr ⟨habsent, hp⟩
    · exact .inl ⟨n, v, hsole, hread, hp⟩
  · rintro (⟨n, v, hsole, hread, hp⟩ | ⟨habsent, hp⟩)
    · exact ⟨some v, .inr ⟨rfl, n, v, hsole, hread, rfl⟩, hp⟩
    · exact ⟨none, .inl ⟨habsent, rfl⟩, hp⟩

/-- The members of a record are read into its first field and, those without its name, into the
fields after it. -/
theorem members_eq_ok_iff {r : Reader s} {put : Option α → rest.Slots → s.Slots}
    (hmember : ∀ key n slot slots, r.member key n (put slot slots) =
      if key = name then
        if slot.isSome then .error .mismatch else (read n).map fun v => put (some v) slots
      else (rest.reader.member key n slots).map (put slot))
    (hms : ∀ m ∈ ms, MemberWellFormed m) {slots : rest.Slots} {final : s.Slots} :
    r.members ms (put slot slots) = .ok final ↔ ∃ slot' slots', put slot' slots' = final ∧
      Takes read name ms slot slot' ∧ rest.reader.members (others name ms) slots = .ok slots' := by
  induction ms generalizing slot slots with
  | nil =>
    constructor
    · intro h
      exact ⟨slot, slots, Except.ok.inj h, takes_nil.mpr rfl, rfl⟩
    · rintro ⟨slot', slots', rfl, htakes, h⟩
      cases h
      exact congrArg (fun slot => Except.ok (put slot slots)) (takes_nil.mp htakes).symm
  | cons m ms ih =>
    obtain ⟨raw, n⟩ := m
    obtain ⟨hm, hms⟩ := List.forall_mem_cons.mp hms
    rw [Reader.members]
    by_cases hname : IsNamed name (raw, n)
    · have hvalue : Text.value? raw = some name := hm.value?_eq_some_iff.mpr hname
      rw [others_cons_of_named hname, hvalue]
      simp only [hmember, if_true]
      cases slot with
      | some v =>
        refine iff_of_false (fun h => by cases h) ?_
        rintro ⟨slot', slots', -, htakes, -⟩
        exact not_takes_some hname htakes
      | none =>
        simp only [takes_cons_of_named hname, Outcome.bind_eq_ok_iff]
        constructor
        · rintro ⟨slots₁, hread, h⟩
          obtain ⟨v, hv, rfl⟩ := Outcome.map_eq_ok_iff.mp hread
          obtain ⟨slot', slots', hput, htakes, hrest⟩ := (ih hms).mp h
          exact ⟨slot', slots', hput, ⟨v, hv, htakes⟩, hrest⟩
        · rintro ⟨slot', slots', hput, ⟨v, hv, htakes⟩, hrest⟩
          exact ⟨put (some v) slots, Outcome.map_eq_ok_iff.mpr ⟨v, hv, rfl⟩,
            (ih hms).mpr ⟨slot', slots', hput, htakes, hrest⟩⟩
    · rw [others_cons_of_not_named hm hname]
      simp only [takes_cons_of_not_named hname, Reader.members]
      cases hvalue : Text.value? raw with
      | none =>
        refine iff_of_false (fun h => by cases h) ?_
        rintro ⟨slot', slots', -, -, h⟩
        cases h
      | some key =>
        have hkey : key ≠ name := by
          rintro rfl
          exact hname (hm.value?_eq_some_iff.mp hvalue)
        simp only [hmember, hkey, if_false, Outcome.bind_eq_ok_iff]
        constructor
        · rintro ⟨slots₁, hread, h⟩
          obtain ⟨slots₂, hslots, rfl⟩ := Outcome.map_eq_ok_iff.mp hread
          obtain ⟨slot', slots', hput, htakes, hrest⟩ := (ih hms).mp h
          exact ⟨slot', slots', hput, htakes, slots₂, hslots, hrest⟩
        · rintro ⟨slot', slots', hput, htakes, slots₂, hslots, hrest⟩
          exact ⟨put slot slots₂, Outcome.map_eq_ok_iff.mpr ⟨slots₂, hslots, rfl⟩,
            (ih hms).mpr ⟨slot', slots', hput, htakes, hrest⟩⟩

end Takes

/-! ## Records -/

section Records

variable [DenotedScalars S]

/-- The record is read from members as they stand for it. -/
def ReadsMembers (s : Schema S) : Prop :=
  ∀ ms, (∀ m ∈ ms, MemberWellFormed m) → ∀ v : s.Tuple,
    s.reader.members ms s.emptySlots >>= s.finish = .ok v ↔
      (∀ m ∈ ms, ∃ name, IsNamed name m) ∧ ByName s ms v

/-- The record is read from items as they stand for it. -/
def ReadsItems (s : Schema S) : Prop :=
  ∀ items, (∀ n ∈ items, n.WellFormed) → ∀ v : s.Tuple,
    s.reader.items items true = .ok v ↔ InOrder s items v

theorem record_eq_ok_iff (hmembers : ReadsMembers s) (hitems : ReadsItems s) (hn : n.WellFormed)
    {v : s.Tuple} : s.reader.record n = .ok v ↔ Stands s n v := by
  cases n with
  | object ms closed =>
    obtain ⟨rfl, hms⟩ := hn.members
    refine (hmembers ms hms v).trans ⟨fun h => .object h.1 h.2, fun h => ?_⟩
    cases h with
    | object hnamed hv => exact ⟨hnamed, hv⟩
  | array items closed =>
    obtain ⟨rfl, hns⟩ := hn.items
    refine (hitems items hns v).trans ⟨.array, fun h => ?_⟩
    cases h with
    | array hv => exact hv
  | null | bool | number | string | broken =>
    exact iff_of_false (fun h => by cases h) (fun h => by cases h)

theorem readsMembers_done : ReadsMembers (done : Schema S) := by
  intro ms hms v
  have hread : (done : Schema S).reader.members ms (emptySlots done) = .ok (emptySlots done) ↔
      ∀ m ∈ ms, ∃ name, IsNamed name m := by
    induction ms with
    | nil => exact iff_of_true rfl (List.forall_mem_nil _)
    | cons m ms ih =>
      obtain ⟨raw, n⟩ := m
      obtain ⟨hm, hms⟩ := List.forall_mem_cons.mp hms
      rw [Reader.members, List.forall_mem_cons, ← ih hms]
      cases hvalue : Text.value? raw with
      | none =>
        refine iff_of_false (fun h => by cases h) ?_
        rintro ⟨⟨name, hname⟩, -⟩
        cases hvalue.symm.trans (hm.value?_eq_some_iff.mpr hname)
      | some name =>
        have hname : ∃ name, IsNamed name (raw, n) := ⟨name, hm.value?_eq_some_iff.mp hvalue⟩
        simp only [reader, hm.value.isWhole, if_true]
        exact (and_iff_right hname).symm
  rw [← hread, Outcome.bind_eq_ok_iff]
  constructor
  · rintro ⟨_, h, -⟩
    exact ⟨h, .done⟩
  · exact fun h => ⟨(), h.1, rfl⟩

theorem readsItems_done : ReadsItems (done : Schema S) := by
  intro items _ v
  cases items with
  | nil => exact iff_of_true rfl .done
  | cons n items => exact iff_of_false (fun h => by cases h) (fun h => by cases h)

/-- The members without the name of a field are read into the fields after it. -/
theorem others_eq_ok_iff (hname : name ∉ rest.names) (hrest : ReadsMembers rest)
    (hms : ∀ m ∈ ms, MemberWellFormed m) (vs : rest.Tuple) :
    rest.reader.members (others name ms) rest.emptySlots >>= rest.finish = .ok vs ↔
      (∀ m ∈ ms, ∃ name, IsNamed name m) ∧ ByName rest ms vs := by
  have hne : ∀ name' ∈ rest.names, name' ≠ name := by
    rintro name' hname' rfl
    exact hname hname'
  rw [hrest _ (fun m hm => hms m (mem_of_mem_others hm)) vs]
  refine and_congr ⟨fun h m hm => ?_, fun h m hm => h m (mem_of_mem_others hm)⟩
    ⟨fun h => ?_, fun h => ?_⟩
  · by_cases hvalue : Text.value? m.1 = some name
    · exact ⟨name, (hms m hm).value?_eq_some_iff.mp hvalue⟩
    · exact h m (List.mem_filter.mpr ⟨hm, by simpa using hvalue⟩)
  · exact h.congr (fun name' h' n => ((others_spec (hne name' h') hms).1 n).mp)
      fun name' h' => (others_spec (hne name' h') hms).2.mp
  · exact h.congr (fun name' h' n => ((others_spec (hne name' h') hms).1 n).mpr)
      fun name' h' => (others_spec (hne name' h') hms).2.mpr

/-- A record is read from members if its first field takes a value from them that completes it, and
they stand for the fields after it. -/
theorem members_finish_iff {α : Type} (r : Reader s) (read : Node → Except Fault α)
    (put : Option α → rest.Slots → s.Slots) (P : Option α → Prop) {v : s.Tuple} {vs : rest.Tuple}
    (hname : name ∉ rest.names) (hrest : ReadsMembers rest) (hms : ∀ m ∈ ms, MemberWellFormed m)
    (hmember : ∀ key n slot slots, r.member key n (put slot slots) =
      if key = name then
        if slot.isSome then .error .mismatch else (read n).map fun v => put (some v) slots
      else (rest.reader.member key n slots).map (put slot))
    (hfinish : ∀ slot slots, s.finish (put slot slots) = .ok v ↔
      P slot ∧ rest.finish slots = .ok vs) :
    r.members ms (put none rest.emptySlots) >>= s.finish = .ok v ↔
      (∀ m ∈ ms, ∃ name, IsNamed name m) ∧
        ((∃ n v, Sole name n ms ∧ read n = .ok v ∧ P (some v)) ∨ Absent name ms ∧ P none) ∧
          ByName rest ms vs := by
  have hothers := others_eq_ok_iff hname hrest hms vs
  rw [Outcome.bind_eq_ok_iff] at hothers ⊢
  rw [and_left_comm, ← hothers, ← exists_takes_iff]
  constructor
  · rintro ⟨final, hread, hv⟩
    obtain ⟨slot, slots, rfl, htakes, hslots⟩ := (members_eq_ok_iff hmember hms).mp hread
    obtain ⟨hp, hvs⟩ := (hfinish slot slots).mp hv
    exact ⟨⟨slot, htakes, hp⟩, slots, hslots, hvs⟩
  · rintro ⟨⟨slot, htakes, hp⟩, slots, hslots, hvs⟩
    exact ⟨put slot slots, (members_eq_ok_iff hmember hms).mpr ⟨slot, slots, rfl, htakes, hslots⟩,
      (hfinish slot slots).mpr ⟨hp, hvs⟩⟩

omit [DenotedScalars S] in
theorem finish_field_iff {slot : Option (Scalars.Value t)} {slots : rest.Slots}
    {v : Scalars.Value t} {vs : rest.Tuple} :
    (field name t fallback rest).finish (slot, slots) = .ok (v, vs) ↔
      slot.or fallback = some v ∧ rest.finish slots = .ok vs := by
  rw [finish]
  cases slot.or fallback with
  | none => exact iff_of_false (fun h => by cases h) (fun h => by cases h.1)
  | some v' =>
    refine Outcome.map_eq_ok_iff.trans ⟨?_, ?_⟩
    · rintro ⟨vs', hvs, heq⟩
      cases heq
      exact ⟨rfl, hvs⟩
    · rintro ⟨hv, hvs⟩
      cases hv
      exact ⟨vs, hvs, rfl⟩

omit [DenotedScalars S] in
theorem finish_nested_iff {slot : Option inner.Tuple} {slots : rest.Slots} {v : inner.Tuple}
    {vs : rest.Tuple} : (nested name inner rest).finish (slot, slots) = .ok (v, vs) ↔
      slot = some v ∧ rest.finish slots = .ok vs := by
  cases slot with
  | none => exact iff_of_false (fun h => by cases h) (fun h => by cases h.1)
  | some v' =>
    refine Outcome.map_eq_ok_iff.trans ⟨?_, ?_⟩
    · rintro ⟨vs', hvs, heq⟩
      cases heq
      exact ⟨rfl, hvs⟩
    · rintro ⟨hv, hvs⟩
      cases hv
      exact ⟨vs, hvs, rfl⟩

theorem readsMembers_field (hname : name ∉ rest.names) (hrest : ReadsMembers rest) :
    ReadsMembers (field name t fallback rest) := by
  rintro ms hms ⟨v, vs⟩
  refine (members_finish_iff (field name t fallback rest).reader (Scalars.ofNode t) Prod.mk
    (fun slot => slot.or fallback = some v) hname hrest hms (fun key n slot slots => rfl)
    fun slot slots => finish_field_iff).trans ?_
  rw [byName_field_iff]
  refine and_congr_right' (and_congr_left' (or_congr_left ?_))
  constructor
  · rintro ⟨n, v', hsole, hread, heq⟩
    cases heq
    exact ⟨n, hsole, (DenotedScalars.ofNode_eq_ok_iff (hsole.wellFormed hms)).mp hread⟩
  · rintro ⟨n, hsole, hv⟩
    exact ⟨n, v, hsole, (DenotedScalars.ofNode_eq_ok_iff (hsole.wellFormed hms)).mpr hv, rfl⟩

theorem readsMembers_nested (hname : name ∉ rest.names) (hmembers : ReadsMembers inner)
    (hitems : ReadsItems inner) (hrest : ReadsMembers rest) :
    ReadsMembers (nested name inner rest) := by
  rintro ms hms ⟨v, vs⟩
  refine (members_finish_iff (nested name inner rest).reader inner.reader.record Prod.mk
    (fun slot => slot = some v) hname hrest hms (fun key n slot slots => rfl)
    fun slot slots => finish_nested_iff).trans ?_
  rw [byName_nested_iff]
  refine and_congr_right' (and_congr_left' ?_)
  constructor
  · rintro (⟨n, v', hsole, hread, heq⟩ | ⟨-, hnone⟩)
    · cases heq
      exact ⟨n, hsole, (record_eq_ok_iff hmembers hitems (hsole.wellFormed hms)).mp hread⟩
    · cases hnone
  · rintro ⟨n, hsole, hv⟩
    exact .inl ⟨n, v, hsole, (record_eq_ok_iff hmembers hitems (hsole.wellFormed hms)).mpr hv, rfl⟩

theorem readsItems_field (hrest : ReadsItems rest) : ReadsItems (field name t fallback rest) := by
  rintro items hns ⟨v, vs⟩
  cases items with
  | nil =>
    cases fallback with
    | none => exact iff_of_false (fun h => by cases h) (fun h => by cases h)
    | some v' =>
      refine Outcome.map_eq_ok_iff.trans ⟨?_, fun h => ?_⟩
      · rintro ⟨vs', hread, heq⟩
        cases heq
        exact .omitted ((hrest [] hns vs).mp hread)
      · cases h with
        | omitted h => exact ⟨vs, (hrest [] hns vs).mpr h, rfl⟩
  | cons n items =>
    obtain ⟨hn, hns⟩ := List.forall_mem_cons.mp hns
    refine Outcome.bind_eq_ok_iff.trans ⟨?_, fun h => ?_⟩
    · rintro ⟨v', hv, h⟩
      obtain ⟨vs', hvs, heq⟩ := Outcome.map_eq_ok_iff.mp h
      cases heq
      exact .field ((DenotedScalars.ofNode_eq_ok_iff hn).mp hv) ((hrest items hns vs).mp hvs)
    · cases h with
      | field hv hvs =>
        exact ⟨v, (DenotedScalars.ofNode_eq_ok_iff hn).mpr hv,
          Outcome.map_eq_ok_iff.mpr ⟨vs, (hrest items hns vs).mpr hvs, rfl⟩⟩

theorem readsItems_nested (hmembers : ReadsMembers inner) (hitems : ReadsItems inner)
    (hrest : ReadsItems rest) : ReadsItems (nested name inner rest) := by
  rintro items hns ⟨v, vs⟩
  cases items with
  | nil => exact iff_of_false (fun h => by cases h) (fun h => by cases h)
  | cons n items =>
    obtain ⟨hn, hns⟩ := List.forall_mem_cons.mp hns
    refine Outcome.bind_eq_ok_iff.trans ⟨?_, fun h => ?_⟩
    · rintro ⟨v', hv, h⟩
      obtain ⟨vs', hvs, heq⟩ := Outcome.map_eq_ok_iff.mp h
      cases heq
      exact .nested ((record_eq_ok_iff hmembers hitems hn).mp hv) ((hrest items hns vs).mp hvs)
    · cases h with
      | nested hv hvs =>
        exact ⟨v, (record_eq_ok_iff hmembers hitems hn).mpr hv,
          Outcome.map_eq_ok_iff.mpr ⟨vs, (hrest items hns vs).mpr hvs, rfl⟩⟩

theorem reads_record (s : Schema S) (hs : s.Distinct) : ReadsMembers s ∧ ReadsItems s := by
  induction s with
  | done => exact ⟨readsMembers_done, readsItems_done⟩
  | field name t fallback rest ih =>
    obtain ⟨hmembers, hitems⟩ := ih hs.2
    exact ⟨readsMembers_field hs.1 hmembers, readsItems_field hitems⟩
  | nested name inner rest ihInner ih =>
    obtain ⟨hmembers, hitems⟩ := ihInner hs.2.1
    obtain ⟨hmembers', hitems'⟩ := ih hs.2.2
    exact ⟨readsMembers_nested hs.1 hmembers hitems hmembers',
      readsItems_nested hmembers hitems hitems'⟩

/-- A record is read from the nodes that stand for it, and from no other. -/
theorem ofNode_eq_ok_iff (hs : s.Distinct) (hn : n.WellFormed) {v : s.Tuple} :
    s.ofNode n = .ok v ↔ Stands s n v :=
  record_eq_ok_iff (reads_record s hs).1 (reads_record s hs).2 hn

end Records

end Schema

/-- A reader gets the node that the text is a document of. -/
theorem readDocument_eq_ok_iff {α : Type} {read : Node → Except Fault α} {b : Bytes} {v : α} :
    readDocument read b = .ok v ↔ ∃ n, Node.DocumentOf n b ∧ read n = .ok v := by
  simp only [← Node.parse_eq_iff]
  unfold readDocument
  obtain ⟨n, atEnd⟩ := Node.parse b
  refine Outcome.bind_eq_ok_iff.trans ?_
  cases atEnd with
  | true =>
    constructor
    · rintro ⟨v', hread, h⟩
      cases h
      exact ⟨n, rfl, hread⟩
    · rintro ⟨n', heq, hread⟩
      cases heq
      exact ⟨v, hread, rfl⟩
  | false =>
    refine iff_of_false ?_ ?_
    · rintro ⟨v', -, h⟩
      cases h
    · rintro ⟨n', heq, -⟩
      cases heq

end FsGateway.Json
