import FsGateway.Proofs.Json.Reading
import Mathlib.Data.List.Forall2

/-!
# What values are read from

A number is read as an integer only in the spelling of that integer, and a string as the text that it
spells. The items of an array are read one by one.

* `readInt_eq_ok_iff`, `readText_eq_ok_iff`, `readBool_eq_ok_iff`: the node of a value.
* `readItems_eq_ok_iff`: the items of an array.
* `DocumentType.Denotes`: the nodes that stand for the scalars of documents.
-/

namespace FsGateway.Json

open Node (WellFormed)

variable {n : Node}

theorem readInt_eq_ok_iff {low high i : Int} (hn : n.WellFormed) :
    readInt low high n = .ok i ↔ n = .number (Number.intLexeme i) ∧ low ≤ i ∧ i ≤ high := by
  constructor
  · intro h
    cases n with
    | number lexeme =>
      rw [readInt] at h
      split at h
      · rename_i i' hinteger
        split at h
        · rename_i hrange
          cases h
          exact ⟨congrArg Node.number ((Number.integer?_eq_some_iff hn.numeral).mp hinteger), hrange⟩
        · cases h
      · cases h
    | null | bool | string | array | object | broken => cases h
  · rintro ⟨rfl, hlow, hhigh⟩
    exact readInt_intLexeme hlow hhigh

theorem readText_eq_ok_iff {s : String} (hn : n.WellFormed) :
    readText n = .ok s ↔ ∃ raw, n = .string raw ∧ Text.Spells raw s.toList := by
  cases n with
  | string raw =>
    have hread : readText (.string raw) = .ok s ↔ Text.value? raw = some s := by
      rw [readText]
      cases Text.value? raw with
      | none => exact iff_of_false (fun h => by cases h) (fun h => by cases h)
      | some s' => exact ⟨fun h => by cases h; rfl, fun h => by cases h; rfl⟩
    rw [hread, Text.value?_eq_some_iff hn.rawForm]
    constructor
    · exact fun h => ⟨raw, rfl, h⟩
    · rintro ⟨raw', heq, h⟩
      cases heq
      exact h
  | null | bool | number | array | object | broken =>
    refine iff_of_false (fun h => by cases h) ?_
    rintro ⟨raw, heq, -⟩
    cases heq

theorem readBool_eq_ok_iff {b : Bool} : readBool n = .ok b ↔ n = .bool b := by
  cases n with
  | bool b' => exact ⟨fun h => by cases h; rfl, fun h => by cases h; rfl⟩
  | null | number | string | array | object | broken =>
    exact iff_of_false (fun h => by cases h) (fun h => by cases h)

section Items

variable {α : Type} {read : Node → Except Fault α} {Means : Node → α → Prop} {items : List Node}
  {vs : List α}

/-- Items are read one by one. -/
theorem mapM_eq_ok_iff (hread : ∀ n v, n.WellFormed → (read n = .ok v ↔ Means n v))
    (hitems : ∀ n ∈ items, n.WellFormed) : items.mapM read = .ok vs ↔ List.Forall₂ Means items vs := by
  induction items generalizing vs with
  | nil =>
    constructor
    · intro h
      cases h
      exact .nil
    · intro h
      cases h
      rfl
  | cons n items ih =>
    obtain ⟨hn, hitems⟩ := List.forall_mem_cons.mp hitems
    rw [List.mapM_cons, Outcome.bind_eq_ok_iff]
    constructor
    · rintro ⟨v, hv, h⟩
      obtain ⟨vs', hvs, heq⟩ := Outcome.bind_eq_ok_iff.mp h
      cases heq
      exact .cons ((hread n v hn).mp hv) ((ih hitems).mp hvs)
    · intro h
      cases h with
      | cons hv hvs =>
        exact ⟨_, (hread n _ hn).mpr hv, Outcome.bind_eq_ok_iff.mpr ⟨_, (ih hitems).mpr hvs, rfl⟩⟩

theorem readItems_eq_ok_iff (hread : ∀ n v, n.WellFormed → (read n = .ok v ↔ Means n v))
    (hn : n.WellFormed) : readItems read n = .ok vs ↔
      ∃ items, n = .array items true ∧ List.Forall₂ Means items vs := by
  cases n with
  | array items closed =>
    obtain ⟨rfl, hitems⟩ := hn.items
    have hmap : readItems read (.array items true) = .ok vs ↔ items.mapM read = .ok vs := by
      refine Outcome.bind_eq_ok_iff.trans ⟨?_, fun h => ⟨vs, h, rfl⟩⟩
      rintro ⟨vs', h, heq⟩
      cases heq
      exact h
    rw [hmap, mapM_eq_ok_iff hread hitems]
    constructor
    · exact fun h => ⟨items, rfl, h⟩
    · rintro ⟨items', heq, h⟩
      cases heq
      exact h
  | null | bool | number | string | object | broken =>
    refine iff_of_false (fun h => by cases h) ?_
    rintro ⟨items, heq, -⟩
    cases heq

end Items

/-! ## Scalars of documents -/

namespace DocumentType

/-- The nodes that stand for a scalar of a document. -/
inductive Denotes : (t : DocumentType) → Node → t.Value → Prop
  | text {raw : Bytes} {s : String} : Text.Spells raw s.toList → Denotes text (.string raw) s
  | i32 (n : Int32) : Denotes i32 (.number (Number.intLexeme n.toInt)) n

theorem ofNode_eq_ok_iff {t : DocumentType} {v : t.Value} (hn : n.WellFormed) :
    t.ofNode n = .ok v ↔ Denotes t n v := by
  cases t with
  | text =>
    refine (readText_eq_ok_iff hn).trans ⟨?_, fun h => ?_⟩
    · rintro ⟨raw, rfl, h⟩
      exact .text h
    · cases h with
      | text h => exact ⟨_, rfl, h⟩
  | i32 =>
    refine Outcome.map_eq_ok_iff.trans ⟨?_, fun h => ?_⟩
    · rintro ⟨i, hread, rfl⟩
      obtain ⟨rfl, hlow, hhigh⟩ := (readInt_eq_ok_iff hn).mp hread
      have hi : (Int32.ofInt i).toInt = i := Int32.toInt_ofInt_of_le hlow (by
        have : Int32.maxValue.toInt = 2 ^ 31 - 1 := rfl
        omega)
      have hdenotes := Denotes.i32 (Int32.ofInt i)
      rwa [hi] at hdenotes
    · cases h with
      | i32 => exact ⟨_, (readInt_eq_ok_iff hn).mpr ⟨rfl, Int32.minValue_le_toInt v, Int32.toInt_le v⟩,
          Int32.ofInt_toInt v⟩

instance : DenotedScalars DocumentType where
  Denotes := Denotes
  ofNode_eq_ok_iff := ofNode_eq_ok_iff

end DocumentType

end FsGateway.Json
