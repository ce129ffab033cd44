import FsGateway.Json.Document
import FsGateway.Proofs.Json.Printing

/-!
# Records are read as they are written

A record whose fields have different names is written as an object from which it is read back. The
scalars of the record need only be read as they are written themselves.

* `LawfulScalars`: scalars that are read as they are written.
* `Schema.ofNode_toNode`: a record is read from the node that it is written as.
* `readDocument_print`: a reader gets the node that was printed.
-/

namespace FsGateway.Json

/-- Scalars that are read as they are written. -/
class LawfulScalars (S : Type) [Scalars S] : Prop where
  spelled (t : S) (v : Scalars.Value t) : (Scalars.toNode t v).Spelled
  ofNode_toNode (t : S) (v : Scalars.Value t) : Scalars.ofNode t (Scalars.toNode t v) = .ok v

namespace Schema

variable {S : Type} [Scalars S]

/-- No two fields of a record have the same name. -/
def Distinct : Schema S → Prop
  | done => True
  | field name _ _ rest => name ∉ rest.names ∧ rest.Distinct
  | nested name inner rest => name ∉ rest.names ∧ inner.Distinct ∧ rest.Distinct

instance decidableDistinct : (s : Schema S) → Decidable s.Distinct
  | done => inferInstanceAs (Decidable True)
  | field name _ _ rest =>
    have := decidableDistinct rest
    inferInstanceAs (Decidable (name ∉ rest.names ∧ rest.Distinct))
  | nested name inner rest =>
    have := decidableDistinct inner
    have := decidableDistinct rest
    inferInstanceAs (Decidable (name ∉ rest.names ∧ inner.Distinct ∧ rest.Distinct))

/-! ## Writing -/

theorem toMembers_names (s : Schema S) (v : s.Tuple) :
    (s.toMembers v).map (·.1) = s.names.map Text.raw := by
  induction s with
  | done => rfl
  | field name t fallback rest ih => exact congrArg (Text.raw name :: ·) (ih v.2)
  | nested name inner rest _ ih => exact congrArg (Text.raw name :: ·) (ih v.2)

theorem toMembers_spelled [LawfulScalars S] (s : Schema S) (v : s.Tuple) :
    Node.MembersSpelled (s.toMembers v) := by
  induction s with
  | done => trivial
  | field name t fallback rest ih =>
    exact ⟨Node.isRaw_raw name, LawfulScalars.spelled t v.1, ih v.2⟩
  | nested name inner rest ihInner ih =>
    exact ⟨Node.isRaw_raw name, ⟨rfl, ihInner v.1⟩, ih v.2⟩

theorem toNode_spelled [LawfulScalars S] (s : Schema S) (v : s.Tuple) : (s.toNode v).Spelled :=
  ⟨rfl, s.toMembers_spelled v⟩

/-! ## Reading -/

/-- All fields of a record read. -/
def filled : (s : Schema S) → s.Tuple → s.Slots
  | done, _ => ()
  | field _ _ _ rest, (v, vs) => (some v, rest.filled vs)
  | nested _ _ rest, (v, vs) => (some v, rest.filled vs)

theorem finish_filled (s : Schema S) (v : s.Tuple) : s.finish (s.filled v) = .ok v := by
  induction s with
  | done => rfl
  | field name t fallback rest ih =>
    obtain ⟨v, vs⟩ := v
    simp only [filled, finish, Option.some_or, ih vs]
    rfl
  | nested name inner rest _ ih =>
    obtain ⟨v, vs⟩ := v
    simp only [filled, finish, ih vs]
    rfl

/-- Members with other names leave a field alone. -/
theorem members_pass {s t : Schema S} {r : Reader s} {r' : Reader t} {name : String}
    (put : s.Slots → t.Slots) (hpass : ∀ key n slots, key ≠ name →
      r'.member key n (put slots) = (r.member key n slots).map put)
    (members : List (Bytes × Node)) (slots : s.Slots)
    (hkeys : ∀ m ∈ members, ∃ key, m.1 = Text.raw key ∧ key ≠ name) :
    r'.members members (put slots) = (r.members members slots).map put := by
  induction members generalizing slots with
  | nil => rfl
  | cons m ms ih =>
    obtain ⟨raw, n⟩ := m
    obtain ⟨key, rfl, hkey⟩ := hkeys _ List.mem_cons_self
    have hrest := fun slots => ih slots fun m hm => hkeys m (List.mem_cons_of_mem _ hm)
    simp only [Reader.members, Text.value?_raw, hpass key n slots hkey]
    cases r.member key n slots with
    | error fault => rfl
    | ok slots' => exact hrest slots'

theorem keys_ne {s : Schema S} {name : String} (hname : name ∉ s.names) (v : s.Tuple) :
    ∀ m ∈ s.toMembers v, ∃ key, m.1 = Text.raw key ∧ key ≠ name := by
  intro m hm
  have hraw : m.1 ∈ s.names.map Text.raw := s.toMembers_names v ▸ List.mem_map_of_mem hm
  obtain ⟨key, hkey, heq⟩ := List.mem_map.mp hraw
  refine ⟨key, heq.symm, ?_⟩
  rintro rfl
  exact hname hkey

theorem members_toMembers [LawfulScalars S] (s : Schema S) (hs : s.Distinct) (v : s.Tuple) :
    s.reader.members (s.toMembers v) s.emptySlots = .ok (s.filled v) := by
  induction s with
  | done => rfl
  | field name t fallback rest ih =>
    obtain ⟨v, vs⟩ := v
    let put : rest.Slots → (field name t fallback rest).Slots := fun slots => (some v, slots)
    have hpass : ∀ key n slots, key ≠ name →
        (field name t fallback rest).reader.member key n (put slots) =
          (rest.reader.member key n slots).map put := by
      intro key n slots hkey
      simp only [reader, put, hkey, if_false]
    have hfirst : (field name t fallback rest).reader.member name (Scalars.toNode t v)
        (field name t fallback rest).emptySlots = .ok (put rest.emptySlots) := by
      simp only [reader, emptySlots, if_true, LawfulScalars.ofNode_toNode]
      rfl
    have hrest := members_pass put hpass (rest.toMembers vs) rest.emptySlots (keys_ne hs.1 vs)
    rw [ih hs.2 vs] at hrest
    simp only [toMembers, Reader.members, Text.value?_raw, hfirst]
    exact hrest
  | nested name inner rest ihInner ih =>
    obtain ⟨v, vs⟩ := v
    let put : rest.Slots → (nested name inner rest).Slots := fun slots => (some v, slots)
    have hpass : ∀ key n slots, key ≠ name →
        (nested name inner rest).reader.member key n (put slots) =
          (rest.reader.member key n slots).map put := by
      intro key n slots hkey
      simp only [reader, put, hkey, if_false]
    have hinner : inner.reader.record (.object (inner.toMembers v) true) = .ok v := by
      rw [Reader.record, ihInner hs.2.1 v]
      exact inner.finish_filled v
    have hfirst : (nested name inner rest).reader.member name (.object (inner.toMembers v) true)
        (nested name inner rest).emptySlots = .ok (put rest.emptySlots) := by
      simp only [reader, emptySlots, if_true, hinner]
      rfl
    have hrest := members_pass put hpass (rest.toMembers vs) rest.emptySlots (keys_ne hs.1 vs)
    rw [ih hs.2.2 vs] at hrest
    simp only [toMembers, Reader.members, Text.value?_raw, hfirst]
    exact hrest

/-- A record is read from the node that it is written as. -/
theorem ofNode_toNode [LawfulScalars S] (s : Schema S) (hs : s.Distinct) (v : s.Tuple) :
    s.ofNode (s.toNode v) = .ok v := by
  rw [ofNode, toNode, Reader.record, members_toMembers s hs v]
  exact s.finish_filled v

end Schema

/-! ## Documents -/

theorem readText_ofText (s : String) : readText (Node.ofText s) = .ok s := by
  rw [Node.ofText.eq_def, readText, Text.value?_raw]
  rfl

theorem readInt_intLexeme {low high i : Int} (hlow : low ≤ i) (hhigh : i ≤ high) :
    readInt low high (.number (Number.intLexeme i)) = .ok i := by
  rw [readInt, Number.integer?_intLexeme]
  simp only [hlow, hhigh, and_self, if_true]

instance : LawfulScalars DocumentType where
  spelled t v := by
    cases t with
    | text => exact Node.isRaw_raw v
    | i32 => exact Node.isLexeme_intLexeme _
  ofNode_toNode t v := by
    cases t with
    | text => exact readText_ofText v
    | i32 =>
      have hread := readInt_intLexeme (Int32.minValue_le_toInt v) (Int32.toInt_le v)
      change (readInt Int32.minValue.toInt Int32.maxValue.toInt
        (.number (Number.intLexeme (Int32.toInt v)))).map Int32.ofInt = .ok v
      rw [hread]
      exact congrArg Except.ok (Int32.ofInt_toInt v)

/-- The items of an array are read from the nodes that they are written as. -/
theorem readItems_map {α : Type} {read : Node → Except Fault α} {write : α → Node}
    (h : ∀ v, read (write v) = .ok v) (vs : List α) :
    readItems read (.array (vs.map write) true) = .ok vs := by
  have hmap : (vs.map write).mapM read = .ok vs := by
    induction vs with
    | nil => rfl
    | cons v vs ih =>
      rw [List.map_cons, List.mapM_cons, h, ih]
      rfl
  rw [readItems, hmap]
  rfl

/-- A reader gets the node that was printed. -/
theorem readDocument_print {α : Type} {read : Node → Except Fault α} {n : Node} {v : α}
    (hn : n.Spelled) (h : read n = .ok v) : readDocument read n.print = .ok v := by
  rw [readDocument, Node.parse_print hn]
  simp only [h]
  rfl

end FsGateway.Json
