import FsGateway.Mount.Table
import FsGateway.Proofs.Json.Records

/-!
# The mount table loads what was saved

* `Table.decode?_encode`: a list of mounts is read from the content that it is written as.
* `FileSystem.Lawful`: what the table relies on when a file is replaced.
* `Table.load_of_save`: a list of mounts that was saved is loaded.
-/

namespace FsGateway.Mount

/-! ## Contents -/

theorem Descriptor.schema_distinct : Descriptor.schema.Distinct := by
  simp [Descriptor.schema, Json.Schema.Distinct, Json.Schema.names]

/-- A descriptor is read from the node that it is written as. -/
theorem Descriptor.ofNode_toNode (d : Descriptor) : Descriptor.ofNode d.toNode = .ok d := by
  rw [Descriptor.ofNode, Descriptor.toNode,
    Json.Schema.ofNode_toNode _ Descriptor.schema_distinct]
  rfl

/-- A list of mounts is read from the content that it is written as. -/
theorem Table.decode?_encode (mounts : List Descriptor) :
    Table.decode? (Table.encode mounts) = some mounts := by
  have hspelled : (Json.Node.array (mounts.map Descriptor.toNode) true).Spelled := by
    refine ⟨rfl, Json.Node.allSpelled_of_forall fun n hn => ?_⟩
    obtain ⟨d, -, rfl⟩ := List.mem_map.mp hn
    exact Json.Schema.toNode_spelled _ _
  have hread := Json.readDocument_print hspelled
    (Json.readItems_map Descriptor.ofNode_toNode mounts)
  rw [Table.decode?, Table.encode, hread]

/-! ## Files -/

variable {σ : Type} {fs : FileSystem σ}

/-- A file that was written holds what was written to it, and a file that was renamed holds what it
held. -/
structure FileSystem.Lawful (fs : FileSystem σ) : Prop where
  read_write {s s' : σ} {path : Path} {content : Bytes} :
    fs.write s path content = (none, s') → fs.read s' path = .ok content
  read_rename {s s' : σ} {source target : Path} {content : Bytes} :
    fs.rename s source target = (none, s') → fs.read s source = .ok content →
      fs.read s' target = .ok content

namespace Step

/-- Changes that follow others are made if all of the others were. -/
theorem performAll_append_cases {first second : List Step} {s s' : σ}
    {result : Except TableFault Unit} (h : performAll fs (first ++ second) s = (result, s')) :
    (∃ s₁, performAll fs first s = (.ok (), s₁) ∧ performAll fs second s₁ = (result, s')) ∨
    (∃ fault, result = .error fault ∧ performAll fs first s = (.error fault, s')) := by
  induction first generalizing s with
  | nil => exact .inl ⟨s, rfl, h⟩
  | cons step steps ih =>
    rw [List.cons_append, performAll] at h
    rw [performAll]
    split at h
    · rename_i s₁ hstep
      exact ih h
    · cases h
      exact .inr ⟨_, rfl, rfl⟩

/-- A file that was replaced holds what it was replaced with. -/
theorem read_of_replace (hfs : fs.Lawful) {path : Path} {content : Bytes} {s s' : σ}
    (h : performAll fs (Table.replace path content) s = (.ok (), s')) :
    fs.read s' path = .ok content := by
  simp only [Table.replace, performAll, perform] at h
  split at h
  · rename_i s₁ hwrite
    split at h
    · rename_i s₂ hrename
      cases h
      exact hfs.read_rename hrename (hfs.read_write hwrite)
    · cases h
  · cases h

end Step

/-- A list of mounts that was saved is loaded. -/
theorem Table.load_of_save (hfs : fs.Lawful) {t : Table} {mounts : List Descriptor} {s s' : σ}
    (h : t.save fs mounts s = (.ok (), s')) : t.load fs s' = .ok mounts := by
  unfold Table.save at h
  split at h
  · cases h
  · obtain ⟨s₁, -, hreplace⟩ | ⟨fault, hfault, -⟩ := Step.performAll_append_cases h
    · have hread := Step.read_of_replace hfs hreplace
      rw [Table.load, Table.previous, hread]
      simp [Except.map, Table.decode?_encode]
    · cases hfault

end FsGateway.Mount
