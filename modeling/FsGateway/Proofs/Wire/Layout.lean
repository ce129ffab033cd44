import FsGateway.Proofs.Outcome
import FsGateway.Wire.Layout

/-!
# Which lists of fields have a layout

A record has a layout where no field of fixed width follows one of varying length. Otherwise the fault
names the first field of varying length and the first field of fixed width after it.

* `ofFields_eq_ok_iff`: a layout is that of its own fields and of no others.
* `exists_ofFields_iff`: the lists of fields that have a layout.
* `ofFields_eq_error_iff`: the fault of the other lists.
-/

namespace FsGateway.Wire.Layout

variable {record first : String} {fields : List Field} {tail : List (Named VaryingType)}
  {l : Layout} {fault : LayoutFault}

/-- No field of fixed width comes after one of varying length. -/
def VaryingLast (fields : List Field) : Prop :=
  fields.Pairwise fun f g => f.type.isVarying = true → g.type.isVarying = true

/-- The first field of which `q` is true, and the fields after it, are related by `R`. -/
def FirstWhere (q : Field → Bool) (fields : List Field) (R : Field → List Field → Prop) : Prop :=
  ∃ before f rest, fields = before ++ f :: rest ∧ (∀ g ∈ before, q g = false) ∧ q f = true ∧ R f rest

/-- The name of the first field of varying length that a field of fixed width comes after, and the name
of the first such field of fixed width. -/
def Misplaced (fields : List Field) (field after : String) : Prop :=
  FirstWhere (fun f => f.type.isVarying) fields fun f rest => f.name = field ∧
    FirstWhere (fun g => !g.type.isVarying) rest fun g _ => g.name = after

/-! ## Layouts -/

theorem ofTail_eq_ok_iff : ofTail record first fields = .ok tail ↔
    tail.map (fun f => ⟨f.name, .varying f.type⟩) = fields := by
  constructor
  · intro h
    induction fields generalizing tail with
    | nil =>
      cases h
      rfl
    | cons f fields ih =>
      obtain ⟨name, type⟩ := f
      cases type with
      | fixed t => cases h
      | varying t =>
        obtain ⟨tail, htail, rfl⟩ := Outcome.map_eq_ok_iff.mp h
        rw [List.map_cons, ih htail]
  · intro h
    rw [← h]
    exact ofTail_map record first tail

/-- A layout is that of its own fields and of no others. -/
theorem ofFields_eq_ok_iff : ofFields record fields = .ok l ↔
    l.record = record ∧ l.fields = fields := by
  constructor
  · intro h
    induction fields generalizing l with
    | nil =>
      cases h
      exact ⟨rfl, rfl⟩
    | cons f fields ih =>
      obtain ⟨name, type⟩ := f
      cases type with
      | fixed t =>
        obtain ⟨l, hl, rfl⟩ := Outcome.map_eq_ok_iff.mp h
        obtain ⟨hrecord, hfields⟩ := ih hl
        refine ⟨hrecord, ?_⟩
        rw [← hfields]
        rfl
      | varying t =>
        obtain ⟨tail, htail, rfl⟩ := Outcome.map_eq_ok_iff.mp h
        refine ⟨rfl, ?_⟩
        rw [← ofTail_eq_ok_iff.mp htail]
        rfl
  · intro ⟨hrecord, hfields⟩
    rw [← hrecord, ← hfields]
    exact ofFields_fields l

theorem varyingLast_fields (l : Layout) : VaryingLast l.fields := by
  refine List.pairwise_append.mpr ⟨?_, ?_, ?_⟩
  · refine List.pairwise_map.mpr (List.pairwise_of_forall fun f g h => ?_)
    cases h
  · refine List.pairwise_map.mpr (List.pairwise_of_forall fun f g h => rfl)
  · intro f hf g hg h
    obtain ⟨f', -, rfl⟩ := List.mem_map.mp hf
    cases h

/-! ## Faults -/

section FirstWhere

variable {q : Field → Bool} {R : Field → List Field → Prop} {f : Field}

theorem not_firstWhere_nil : ¬ FirstWhere q [] R := by
  intro ⟨before, f, rest, h, _⟩
  simp at h

theorem firstWhere_cons_of_true (h : q f = true) : FirstWhere q (f :: fields) R ↔ R f fields := by
  constructor
  · intro ⟨before, g, rest, hsplit, hbefore, _, hR⟩
    cases before with
    | nil =>
      cases hsplit
      exact hR
    | cons f' before =>
      cases hsplit
      rw [hbefore f List.mem_cons_self] at h
      cases h
  · intro hR
    exact ⟨[], f, fields, rfl, by simp, h, hR⟩

theorem firstWhere_cons_of_false (h : q f = false) :
    FirstWhere q (f :: fields) R ↔ FirstWhere q fields R := by
  constructor
  · intro ⟨before, g, rest, hsplit, hbefore, hg, hR⟩
    cases before with
    | nil =>
      cases hsplit
      rw [h] at hg
      cases hg
    | cons f' before =>
      cases hsplit
      exact ⟨before, g, rest, rfl, fun f' hf' => hbefore f' (List.mem_cons_of_mem _ hf'), hg, hR⟩
  · intro ⟨before, g, rest, hsplit, hbefore, hg, hR⟩
    refine ⟨f :: before, g, rest, by rw [hsplit]; rfl, ?_, hg, hR⟩
    intro f' hf'
    obtain rfl | hf' := List.mem_cons.mp hf'
    · exact h
    · exact hbefore f' hf'

end FirstWhere

theorem ofTail_eq_error_iff : ofTail record first fields = .error fault ↔
    ∃ after, FirstWhere (fun g => !g.type.isVarying) fields (fun g _ => g.name = after) ∧
      fault = .fixedAfterVarying record first after := by
  induction fields with
  | nil =>
    refine iff_of_false (fun h => by cases h) ?_
    intro ⟨after, h, _⟩
    exact not_firstWhere_nil h
  | cons f fields ih =>
    obtain ⟨name, type⟩ := f
    cases type with
    | fixed t =>
      simp only [firstWhere_cons_of_true (q := fun g => !g.type.isVarying)
        (f := ⟨name, .fixed t⟩) rfl]
      constructor
      · intro h
        cases h
        exact ⟨name, rfl, rfl⟩
      · intro ⟨after, hname, hfault⟩
        rw [hfault, ← hname]
        rfl
    | varying t =>
      simp only [firstWhere_cons_of_false (q := fun g => !g.type.isVarying)
        (f := ⟨name, .varying t⟩) rfl]
      rw [ofTail, Outcome.map_eq_error_iff, ih]

/-- The fault of a list of fields that has no layout names the first field of varying length and the
first field of fixed width after it. -/
theorem ofFields_eq_error_iff : ofFields record fields = .error fault ↔
    ∃ field after, Misplaced fields field after ∧ fault = .fixedAfterVarying record field after := by
  unfold Misplaced
  induction fields with
  | nil =>
    refine iff_of_false (fun h => by cases h) ?_
    intro h
    obtain ⟨field, after, h, -⟩ := h
    exact not_firstWhere_nil h
  | cons f fields ih =>
    obtain ⟨name, type⟩ := f
    cases type with
    | fixed t =>
      simp only [firstWhere_cons_of_false (q := fun f => f.type.isVarying)
        (f := ⟨name, .fixed t⟩) rfl]
      rw [ofFields, Outcome.map_eq_error_iff, ih]
    | varying t =>
      simp only [firstWhere_cons_of_true (q := fun f => f.type.isVarying)
        (f := ⟨name, .varying t⟩) rfl]
      rw [ofFields, Outcome.map_eq_error_iff, ofTail_eq_error_iff]
      constructor
      · intro h
        obtain ⟨after, h, hfault⟩ := h
        exact ⟨name, after, ⟨rfl, h⟩, hfault⟩
      · intro h
        obtain ⟨field, after, ⟨hname, h⟩, hfault⟩ := h
        rw [← hname] at hfault
        exact ⟨after, h, hfault⟩

theorem not_misplaced {field after : String} (h : VaryingLast fields) :
    ¬ Misplaced fields field after := by
  intro ⟨head, f, rest, hsplit, _, hf, _, between, g, rest', hrest, _, hg, _⟩
  rw [hsplit, hrest] at h
  obtain ⟨-, hafter, -⟩ := List.pairwise_append.mp h
  have hvarying := (List.pairwise_cons.mp hafter).1 g (by simp) hf
  exact absurd hg (by simp [hvarying])

/-- The lists of fields that have a layout. -/
theorem exists_ofFields_iff : (∃ l, ofFields record fields = .ok l) ↔ VaryingLast fields := by
  constructor
  · intro ⟨l, h⟩
    rw [← (ofFields_eq_ok_iff.mp h).2]
    exact varyingLast_fields l
  · intro h
    cases hfields : ofFields record fields with
    | ok l => exact ⟨l, rfl⟩
    | error fault =>
      obtain ⟨field, after, hmisplaced, -⟩ := ofFields_eq_error_iff.mp hfields
      exact absurd hmisplaced (not_misplaced h)

end FsGateway.Wire.Layout
