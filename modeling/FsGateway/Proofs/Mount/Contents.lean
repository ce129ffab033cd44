import FsGateway.Proofs.Json.Values
import FsGateway.Proofs.Mount.Files
import FsGateway.Proofs.Mount.Table

/-!
# What the save file holds

A save file holds a list of mounts if it is a JSON array whose items stand for them, in order. Of the
fields of a descriptor all but the first two may be left out.

* `Table.Holds`: a content holds a list of mounts.
* `Table.decode?_eq_some_iff`: the list of a content is the one that it holds.
* `Table.contents_survive`: what is loaded, after a save and from any content.
-/

namespace FsGateway.Mount

open FsGateway.Json (Node)

variable {n : Node} {content : Bytes} {mounts : List Descriptor}

/-- A node stands for a descriptor. -/
def Descriptor.StandsFor (n : Node) (d : Descriptor) : Prop := Descriptor.schema.Stands n d.toTuple

theorem Descriptor.ofNode_eq_ok_iff (n : Node) (d : Descriptor) (hn : n.WellFormed) :
    Descriptor.ofNode n = .ok d ↔ Descriptor.StandsFor n d := by
  refine Outcome.map_eq_ok_iff.trans ⟨?_, fun h => ?_⟩
  · rintro ⟨v, hread, rfl⟩
    exact (Json.Schema.ofNode_eq_ok_iff Descriptor.schema_distinct hn).mp hread
  · exact ⟨d.toTuple, (Json.Schema.ofNode_eq_ok_iff Descriptor.schema_distinct hn).mpr h, rfl⟩

namespace Table

/-- A content is a JSON array of descriptors, which are the mounts in order. -/
def Holds (content : Bytes) (mounts : List Descriptor) : Prop :=
  ∃ items, Node.DocumentOf (.array items true) content ∧
    List.Forall₂ Descriptor.StandsFor items mounts

/-- The list of a content is the one that it holds. -/
theorem decode?_eq_some_iff : decode? content = some mounts ↔ Holds content mounts := by
  have hread : decode? content = some mounts ↔
      Json.readDocument (Json.readItems Descriptor.ofNode) content = .ok mounts := by
    rw [decode?]
    cases Json.readDocument (Json.readItems Descriptor.ofNode) content with
    | error fault => exact iff_of_false (fun h => by cases h) (fun h => by cases h)
    | ok mounts' => exact ⟨fun h => by cases h; rfl, fun h => by cases h; rfl⟩
  rw [hread, Json.readDocument_eq_ok_iff]
  constructor
  · rintro ⟨n, hdocument, h⟩
    obtain ⟨items, rfl, hmounts⟩ :=
      (Json.readItems_eq_ok_iff Descriptor.ofNode_eq_ok_iff hdocument.wellFormed).mp h
    exact ⟨items, hdocument, hmounts⟩
  · rintro ⟨items, hdocument, hmounts⟩
    exact ⟨_, hdocument, (Json.readItems_eq_ok_iff Descriptor.ofNode_eq_ok_iff
      hdocument.wellFormed).mpr ⟨items, rfl, hmounts⟩⟩

variable {σ : Type} {fs : FileSystem σ}

/-- What is loaded is what the save file holds. -/
theorem load_eq_of_read {t : Table} {s : σ} (h : fs.read s t.saveTo = .ok content) :
    (∀ mounts, Holds content mounts → t.load fs s = .ok mounts) ∧
      ((¬ ∃ mounts, Holds content mounts) → t.load fs s = .ok []) := by
  have hload : t.load fs s = .ok ((decode? content).getD []) := by
    rw [load, previous, h]
    rfl
  refine ⟨fun mounts hholds => ?_, fun hnone => ?_⟩
  · rw [hload, decode?_eq_some_iff.mpr hholds]
    rfl
  · cases hdecode : decode? content with
    | none => rw [hload, hdecode]; rfl
    | some mounts => exact absurd ⟨mounts, decode?_eq_some_iff.mp hdecode⟩ hnone

/-- A list of mounts that was saved is loaded. Whatever a save file contains, something is loaded
from it: the list of mounts that it holds, or no mounts if it holds no list. A missing file holds
none. -/
theorem contents_survive (hfs : fs.Lawful) (t : Table) :
    (∀ mounts s s', t.save fs mounts s = (.ok (), s') → t.load fs s' = .ok mounts) ∧
    (∀ s content, fs.read s t.saveTo = .ok content →
      (∀ mounts, Holds content mounts → t.load fs s = .ok mounts) ∧
        ((¬ ∃ mounts, Holds content mounts) → t.load fs s = .ok [])) ∧
    ∀ s, fs.read s t.saveTo = .error .notFound → t.load fs s = .ok [] := by
  refine ⟨fun mounts s s' h => load_of_save hfs h, fun s content h => load_eq_of_read h,
    fun s h => ?_⟩
  have hempty : decode? [] = none := rfl
  rw [load, previous, h]
  simp [Except.map, hempty]

/-- A mount with characters that JSON does not hold as they are. -/
def quotedMount : Descriptor :=
  ⟨⟨"/mnt/\"é😀\\"⟩, "http://a\n", "\x00", "", "", "allow_root", -2147483648⟩

/-- A list of one mount in another form: an array of the fields that must not be left out. -/
def positional : Bytes := Text.encode " [ [ \"\\u002fb\", \"http://b\" ] ]\n"

theorem contents_survive_files :
    Files.system.Lawful ∧
    (∃ s', save Files.system ⟨⟨"a"⟩, ⟨"b"⟩⟩ [quotedMount] ⟨[]⟩ = (.ok (), s') ∧
      load Files.system ⟨⟨"a"⟩, ⟨"b"⟩⟩ s' = .ok [quotedMount]) ∧
    Files.system.read ⟨[([['a']], .regular positional)]⟩ ⟨"a"⟩ = .ok positional ∧
    Holds positional [{ point := ⟨"/b"⟩, target := "http://b" }] ∧
    load Files.system ⟨⟨"a"⟩, ⟨"b"⟩⟩ ⟨[([['a']], .regular positional)]⟩ =
      .ok [{ point := ⟨"/b"⟩, target := "http://b" }] := by
  have hlawful := Files.system_lawful
  obtain ⟨hsaved, hread, -⟩ := contents_survive hlawful ⟨⟨"a"⟩, ⟨"b"⟩⟩
  have hcontent : Files.system.read ⟨[([['a']], .regular positional)]⟩ ⟨"a"⟩ = .ok positional := by
    rfl
  have hholds : Holds positional [{ point := ⟨"/b"⟩, target := "http://b" }] :=
    decode?_eq_some_iff.mp rfl
  have hsave : (save Files.system ⟨⟨"a"⟩, ⟨"b"⟩⟩ [quotedMount] ⟨[]⟩).1 = .ok () := rfl
  exact ⟨hlawful, ⟨_, Prod.ext hsave rfl, hsaved _ _ _ (Prod.ext hsave rfl)⟩, hcontent, hholds,
    (hread _ _ hcontent).1 _ hholds⟩

end Table

end FsGateway.Mount
