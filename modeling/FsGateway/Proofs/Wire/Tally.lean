import FsGateway.Proofs.Wire.Layout
import FsGateway.Proofs.Wire.Positions
import Mathlib

/-!
# What a layout says about its fields

A list of fields can be made a layout on one way through it, on which three things are kept: the first
field of varying length so far, the bytes of the prefix so far, and how many fields of varying length
there have been. The two numbers decide the shape, and the second one says where to split the fields.

* `foldlM_add_tail`, `foldlM_add_head`: what the rest of the way does, from any point of it on.
* `tally_eq`: on this way the same lists are refused with the same faults.
* `counts_shape`: the two numbers decide the shape.
* `accounts_fields`: what a layout says about its fields.
* `ofFields_accounts`: which lists have a layout, and what it says.
-/

namespace FsGateway.Wire.Layout

open Raw (ofFixed ofVarying)

variable {record : String} {fields : List Field} {l : Layout}

/-! ## One way through the fields -/

/-- What is kept on the way through a list of fields. -/
structure Tally where
  first : Option Field
  prefixLength : Nat
  varying : Nat
  deriving DecidableEq, Repr

/-- One more field. A field of fixed width must not come once there has been one of varying length. -/
def Tally.add (record : String) (t : Tally) (f : Field) : Except LayoutFault Tally :=
  match f.type.width? with
  | some width =>
    match t.first with
    | some v => .error (.fixedAfterVarying record v.name f.name)
    | none => .ok { t with prefixLength := t.prefixLength + width }
  | none => .ok { t with first := some (t.first.getD f), varying := t.varying + 1 }

/-- How the payload is framed, as far as the two numbers say. -/
def Tally.shape (t : Tally) : Shape :=
  match t.prefixLength, t.varying with
  | 0, 0 => .empty
  | _, 0 => .fixed
  | 0, 1 => .wholeBody
  | _, 1 => .prefixAndTail
  | _, _ => .delimited

/-- What has been kept at the end of the way. -/
def tally (record : String) (fields : List Field) : Except LayoutFault Tally :=
  fields.foldlM (Tally.add record) ⟨none, 0, 0⟩

/-- What has been kept on the way to a layout. -/
def counts (l : Layout) : Tally := ⟨l.tail.head?.map ofVarying, l.prefixLength, l.tail.length⟩

/-- Once there has been a field of varying length, only such fields can follow, and each is counted. -/
theorem foldlM_add_tail (record : String) (fields : List Field) (first : Field) (bytes varying : Nat) :
    fields.foldlM (Tally.add record) ⟨some first, bytes, varying⟩ =
      (ofTail record first.name fields).map fun tail =>
        ⟨some first, bytes, varying + tail.length⟩ := by
  induction fields generalizing varying with
  | nil => rfl
  | cons f fields ih =>
    obtain ⟨name, type⟩ := f
    cases type with
    | fixed t => rfl
    | varying t =>
      have hrest := ih (varying + 1)
      rw [List.foldlM_cons, ofTail]
      show fields.foldlM (Tally.add record) ⟨some first, bytes, varying + 1⟩ = _
      rw [hrest]
      cases ofTail record first.name fields with
      | error fault => rfl
      | ok tail =>
        have hlength : varying + 1 + tail.length = varying + (tail.length + 1) := by omega
        simp only [Except.map, List.length_cons, hlength]

/-- Until then the bytes of the fields of fixed width are counted. -/
theorem foldlM_add_head (record : String) (fields : List Field) (bytes : Nat) :
    fields.foldlM (Tally.add record) ⟨none, bytes, 0⟩ =
      (ofFields record fields).map fun l =>
        ⟨l.tail.head?.map ofVarying, bytes + l.prefixLength, l.tail.length⟩ := by
  induction fields generalizing bytes with
  | nil => rfl
  | cons f fields ih =>
    obtain ⟨name, type⟩ := f
    cases type with
    | fixed t =>
      have hrest := ih (bytes + t.width)
      rw [List.foldlM_cons, ofFields]
      show fields.foldlM (Tally.add record) ⟨none, bytes + t.width, 0⟩ = _
      rw [hrest]
      cases ofFields record fields with
      | error fault => rfl
      | ok l =>
        have hbytes : bytes + t.width + l.prefixLength = bytes + (t.width + l.prefixLength) := by omega
        simp only [Except.map, hbytes]
        rfl
    | varying t =>
      have hrest := foldlM_add_tail record fields ⟨name, .varying t⟩ bytes 1
      rw [List.foldlM_cons, ofFields]
      show fields.foldlM (Tally.add record) ⟨some ⟨name, .varying t⟩, bytes, 1⟩ = _
      rw [hrest]
      cases ofTail record name fields with
      | error fault => rfl
      | ok tail =>
        have hlength : 1 + tail.length = tail.length + 1 := by omega
        simp only [Except.map, hlength]
        rfl

/-- The way through a list ends with what is kept for its layout, or with the fault of the list. -/
theorem tally_eq (record : String) (fields : List Field) :
    tally record fields = (ofFields record fields).map counts := by
  rw [tally, foldlM_add_head]
  simp only [Nat.zero_add]
  rfl

/-! ## The shape -/

theorem width_pos (t : FixedType) : 0 < t.width := by
  cases t <;> decide

theorem prefixLength_cons (f : Named FixedType) (head : List (Named FixedType))
    (tail : List (Named VaryingType)) :
    prefixLength ⟨record, f :: head, tail⟩ = f.type.width + prefixLength ⟨record, head, tail⟩ := rfl

/-- A prefix has bytes as soon as it has fields, so the two numbers decide the shape. -/
theorem counts_shape (l : Layout) : l.counts.shape = l.shape := by
  obtain ⟨record, head, tail⟩ := l
  cases head with
  | nil =>
    match tail with
    | [] => rfl
    | [f] => rfl
    | f :: g :: tail => rfl
  | cons f head =>
    have hpos := width_pos f.type
    have hne : prefixLength ⟨record, f :: head, tail⟩ ≠ 0 := by
      rw [prefixLength_cons]
      omega
    obtain ⟨bytes, hbytes⟩ := Nat.exists_eq_succ_of_ne_zero hne
    rw [counts, hbytes]
    match tail with
    | [] => rfl
    | [f] => rfl
    | f :: g :: tail => rfl

/-- The numbers of fields of fixed width and of varying length that a shape is for. -/
def Frames : Shape → (fixed varying : Nat) → Prop
  | .empty, fixed, varying => fixed = 0 ∧ varying = 0
  | .fixed, fixed, varying => 0 < fixed ∧ varying = 0
  | .wholeBody, fixed, varying => fixed = 0 ∧ varying = 1
  | .prefixAndTail, fixed, varying => 0 < fixed ∧ varying = 1
  | .delimited, _, varying => 2 ≤ varying

theorem frames_shape (l : Layout) : Frames l.shape l.head.length l.tail.length := by
  obtain ⟨record, head, tail⟩ := l
  match head, tail with
  | [], [] => exact ⟨rfl, rfl⟩
  | f :: head, [] => exact ⟨Nat.succ_pos _, rfl⟩
  | [], [f] => exact ⟨rfl, rfl⟩
  | f :: head, [g] => exact ⟨Nat.succ_pos _, rfl⟩
  | [], f :: g :: tail => exact Nat.le_add_left 2 _
  | f :: head, g :: h :: tail => exact Nat.le_add_left 2 _

/-- Two numbers are for one shape only. -/
theorem Frames.unique {s s' : Shape} {fixed varying : Nat} (h : Frames s fixed varying)
    (h' : Frames s' fixed varying) : s = s' := by
  cases s <;> cases s' <;> simp only [Frames] at h h' <;> first | rfl | omega

theorem shape_eq_iff {s : Shape} : l.shape = s ↔ Frames s l.head.length l.tail.length := by
  constructor
  · intro h
    rw [← h]
    exact frames_shape l
  · exact (frames_shape l).unique

/-! ## The fields -/

theorem fields_eq_append (l : Layout) :
    l.fields = l.head.map ofFixed ++ l.tail.map ofVarying := rfl

theorem filter_fixed (l : Layout) :
    l.fields.filter (fun f => !f.type.isVarying) = l.head.map ofFixed := by
  have hhead : l.head.filter ((fun f => !f.type.isVarying) ∘ ofFixed) = l.head :=
    List.filter_eq_self.mpr fun f _ => rfl
  have htail : l.tail.filter ((fun f => !f.type.isVarying) ∘ ofVarying) = [] :=
    List.filter_eq_nil_iff.mpr fun f _ => Bool.false_ne_true
  rw [fields_eq_append, List.filter_append, List.filter_map, List.filter_map, hhead, htail,
    List.map_nil, List.append_nil]

theorem filter_varying (l : Layout) :
    l.fields.filter (fun f => f.type.isVarying) = l.tail.map ofVarying := by
  have hhead : l.head.filter ((fun f => f.type.isVarying) ∘ ofFixed) = [] :=
    List.filter_eq_nil_iff.mpr fun f _ => Bool.false_ne_true
  have htail : l.tail.filter ((fun f => f.type.isVarying) ∘ ofVarying) = l.tail :=
    List.filter_eq_self.mpr fun f _ => rfl
  rw [fields_eq_append, List.filter_append, List.filter_map, List.filter_map, hhead, htail,
    List.map_nil, List.nil_append]

theorem length_fields (l : Layout) : l.fields.length = l.head.length + l.tail.length := by
  rw [fields_eq_append, List.length_append, List.length_map, List.length_map]

theorem countP_fields (l : Layout) :
    l.fields.countP (fun f => f.type.isVarying) = l.tail.length := by
  rw [List.countP_eq_length_filter, filter_varying, List.length_map]

theorem prefixLength_eq_sum (l : Layout) :
    l.prefixLength = (l.fields.filterMap fun f => f.type.width?).sum := by
  have htail : (l.tail.map ofVarying).filterMap (fun f => f.type.width?) = [] := by
    rw [List.filterMap_map]
    exact List.filterMap_eq_nil_iff.mpr fun f _ => rfl
  rw [fields_eq_append, List.filterMap_append, htail, List.append_nil, prefixLength]
  induction l.head with
  | nil => rfl
  | cons f head ih =>
    rw [List.foldr_cons, ih]
    rfl

/-! ## Each shape -/

theorem shape_eq_empty_iff : l.shape = .empty ↔ l.fields = [] := by
  rw [shape_eq_iff, Frames, ← List.length_eq_zero_iff, length_fields]
  omega

theorem forall_fixed_iff {fields : List Field} : (∀ f ∈ fields, f.type.isVarying = false) ↔
    fields.countP (fun f => f.type.isVarying) = 0 := by
  simp only [List.countP_eq_zero, Bool.not_eq_true]

theorem shape_eq_fixed_iff : l.shape = .fixed ↔
    l.fields ≠ [] ∧ ∀ f ∈ l.fields, f.type.isVarying = false := by
  rw [shape_eq_iff, Frames, forall_fixed_iff, countP_fields, ← List.length_pos_iff, length_fields]
  omega

theorem shape_eq_wholeBody_iff : l.shape = .wholeBody ↔
    ∃ f, l.fields = [f] ∧ f.type.isVarying = true := by
  rw [shape_eq_iff, Frames]
  constructor
  · intro h
    obtain ⟨hhead, htail⟩ := h
    obtain ⟨f, hf⟩ := List.length_eq_one_iff.mp htail
    refine ⟨ofVarying f, ?_, rfl⟩
    rw [fields_eq_append, List.length_eq_zero_iff.mp hhead, hf]
    rfl
  · intro h
    obtain ⟨f, hfields, hf⟩ := h
    have hlength := length_fields l
    have hcount := countP_fields l
    rw [hfields, List.countP_singleton, if_pos hf] at hcount
    rw [hfields, List.length_singleton] at hlength
    omega

theorem shape_eq_prefixAndTail_iff : l.shape = .prefixAndTail ↔
    ∃ before last, l.fields = before ++ [last] ∧ before ≠ [] ∧
      (∀ f ∈ before, f.type.isVarying = false) ∧ last.type.isVarying = true := by
  rw [shape_eq_iff, Frames]
  constructor
  · intro h
    obtain ⟨hhead, htail⟩ := h
    obtain ⟨f, hf⟩ := List.length_eq_one_iff.mp htail
    refine ⟨l.head.map ofFixed, ofVarying f, ?_, ?_, ?_, rfl⟩
    · rw [fields_eq_append, hf]
      rfl
    · intro hnil
      rw [List.map_eq_nil_iff.mp hnil] at hhead
      exact absurd hhead (Nat.lt_irrefl 0)
    · intro g hg
      obtain ⟨g', -, rfl⟩ := List.mem_map.mp hg
      rfl
  · intro h
    obtain ⟨before, last, hfields, hne, hbefore, hlast⟩ := h
    have hpos := List.length_pos_iff.mpr hne
    have hlength := length_fields l
    have hcount := countP_fields l
    rw [hfields, List.countP_append, forall_fixed_iff.mp hbefore, List.countP_singleton,
      if_pos hlast] at hcount
    rw [hfields, List.length_append, List.length_singleton] at hlength
    omega

theorem shape_eq_delimited_iff : l.shape = .delimited ↔
    2 ≤ l.fields.countP fun f => f.type.isVarying := by
  rw [shape_eq_iff, Frames, countP_fields]

/-! ## Layouts -/

/-- What a layout says about the fields that it is of. -/
structure Accounts (fields : List Field) (l : Layout) : Prop where
  declared : l.fields = fields
  prefixLength : l.prefixLength = (fields.filterMap fun f => f.type.width?).sum
  varying : l.tail.length = fields.countP fun f => f.type.isVarying
  fixedFields : Raw.fixedFields? l = some (fields.filter fun f => !f.type.isVarying)
  varyingFields : Raw.varyingFields? l = some (fields.filter fun f => f.type.isVarying)
  split : (fields.filter fun f => !f.type.isVarying) ++ (fields.filter fun f => f.type.isVarying) =
    fields
  empty : l.shape = .empty ↔ fields = []
  fixed : l.shape = .fixed ↔ fields ≠ [] ∧ ∀ f ∈ fields, f.type.isVarying = false
  wholeBody : l.shape = .wholeBody ↔ ∃ f, fields = [f] ∧ f.type.isVarying = true
  prefixAndTail : l.shape = .prefixAndTail ↔ ∃ before last, fields = before ++ [last] ∧
    before ≠ [] ∧ (∀ f ∈ before, f.type.isVarying = false) ∧ last.type.isVarying = true
  delimited : l.shape = .delimited ↔ 2 ≤ fields.countP fun f => f.type.isVarying

/-- Every layout accounts for its fields. -/
theorem accounts_fields (l : Layout) : Accounts l.fields l where
  declared := rfl
  prefixLength := prefixLength_eq_sum l
  varying := (countP_fields l).symm
  fixedFields := by rw [filter_fixed, Raw.fixedFields?_eq_some]
  varyingFields := by rw [filter_varying, Raw.varyingFields?_eq_some]
  split := by rw [filter_fixed, filter_varying, fields_eq_append]
  empty := shape_eq_empty_iff
  fixed := shape_eq_fixed_iff
  wholeBody := shape_eq_wholeBody_iff
  prefixAndTail := shape_eq_prefixAndTail_iff
  delimited := shape_eq_delimited_iff

/-- A list of fields has a layout where no field of fixed width comes after one of varying length. One
way through the list finds that out, or else the first field of varying length and the first field of
fixed width after it. What has been counted on it is what the layout says about the fields: the bytes
of the prefix, where to split the fields, and the shape. -/
theorem ofFields_accounts (record : String) (fields : List Field) :
    tally record fields = (ofFields record fields).map counts ∧
      ((∃ l, ofFields record fields = .ok l) ↔ VaryingLast fields) ∧
      (∀ fault, ofFields record fields = .error fault ↔
        ∃ field after, Misplaced fields field after ∧
          fault = .fixedAfterVarying record field after) ∧
      ∀ l, ofFields record fields = .ok l →
        l.record = record ∧ l.counts.shape = l.shape ∧ Accounts fields l := by
  refine ⟨tally_eq record fields, exists_ofFields_iff, fun fault => ofFields_eq_error_iff,
    fun l h => ?_⟩
  obtain ⟨hrecord, hfields⟩ := ofFields_eq_ok_iff.mp h
  refine ⟨hrecord, counts_shape l, ?_⟩
  rw [← hfields]
  exact accounts_fields l

/-- Two names after a number. -/
def sampleNames : Layout :=
  ⟨"rename", [⟨"inode", .u64⟩], [⟨"name", .text⟩, ⟨"new_name", .text⟩]⟩

theorem ofFields_accounts_names : ofFields "rename" sampleNames.fields = .ok sampleNames ∧
    Accounts sampleNames.fields sampleNames ∧
    ofFields "broken" [⟨"name", .varying .text⟩, ⟨"inode", .fixed .u64⟩] =
      .error (.fixedAfterVarying "broken" "name" "inode") := by
  have hlayout := ofFields_fields sampleNames
  obtain ⟨-, -, -, haccounts⟩ := ofFields_accounts "rename" sampleNames.fields
  obtain ⟨-, -, hfault, -⟩ :=
    ofFields_accounts "broken" [⟨"name", .varying .text⟩, ⟨"inode", .fixed .u64⟩]
  refine ⟨hlayout, (haccounts sampleNames hlayout).2.2, (hfault _).mpr ⟨"name", "inode", ?_, rfl⟩⟩
  -- the first field is the misplaced one, and the next one has the fixed width
  exact ⟨[], ⟨"name", .varying .text⟩, [⟨"inode", .fixed .u64⟩], rfl, by simp, rfl, rfl,
    [], ⟨"inode", .fixed .u64⟩, [], rfl, by simp, rfl, rfl⟩

end FsGateway.Wire.Layout
