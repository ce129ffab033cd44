/-!
# Outcomes of computations that can fail

A computation that can fail is a chain of such computations. It has not failed where none of them has,
and its fault is that of the first that has.
-/

namespace FsGateway.Outcome

variable {ε α β γ : Type} {x : Except ε α} {b : β}

@[simp] theorem mapError_ok (f : ε → γ) (a : α) : (Except.ok a).mapError f = .ok a := rfl

@[simp] theorem mapError_error (f : ε → γ) (fault : ε) :
    (Except.error fault : Except ε α).mapError f = .error (f fault) := rfl

theorem bind_eq_ok_iff {f : α → Except ε β} : x >>= f = .ok b ↔ ∃ a, x = .ok a ∧ f a = .ok b := by
  constructor
  · intro h
    cases x with
    | error fault => cases h
    | ok a => exact ⟨a, rfl, h⟩
  · rintro ⟨a, rfl, h⟩
    exact h

theorem map_eq_ok_iff {f : α → β} : x.map f = .ok b ↔ ∃ a, x = .ok a ∧ f a = b := by
  constructor
  · intro h
    cases x with
    | error fault => cases h
    | ok a =>
      cases h
      exact ⟨a, rfl, rfl⟩
  · rintro ⟨a, rfl, rfl⟩
    rfl

theorem mapError_eq_ok_iff {f : ε → γ} {a : α} : x.mapError f = .ok a ↔ x = .ok a := by
  cases x with
  | error fault => exact iff_of_false (fun h => by cases h) fun h => by cases h
  | ok a' => exact ⟨fun h => by cases h; rfl, fun h => by cases h; rfl⟩

/-! ## Faults -/

variable {fault : ε}

theorem bind_eq_error_iff {f : α → Except ε β} :
    x >>= f = .error fault ↔ x = .error fault ∨ ∃ a, x = .ok a ∧ f a = .error fault := by
  cases x with
  | error fault' =>
    constructor
    · intro h
      cases h
      exact .inl rfl
    · intro h
      obtain h | ⟨a, h, -⟩ := h
      · cases h
        rfl
      · cases h
  | ok a =>
    constructor
    · intro h
      exact .inr ⟨a, rfl, h⟩
    · intro h
      obtain h | ⟨a', h, hf⟩ := h
      · cases h
      · cases h
        exact hf

theorem map_eq_error_iff {f : α → β} : x.map f = .error fault ↔ x = .error fault := by
  cases x with
  | error fault' => exact ⟨fun h => by cases h; rfl, fun h => by cases h; rfl⟩
  | ok a => exact iff_of_false (fun h => by cases h) fun h => by cases h

theorem mapError_eq_error_iff {f : ε → γ} {fault : γ} :
    x.mapError f = .error fault ↔ ∃ fault', x = .error fault' ∧ f fault' = fault := by
  cases x with
  | error fault' =>
    constructor
    · intro h
      cases h
      exact ⟨fault', rfl, rfl⟩
    · intro ⟨fault'', h, hf⟩
      cases h
      exact congrArg Except.error hf
  | ok a => exact iff_of_false (fun h => by cases h) fun ⟨_, h, _⟩ => by cases h

/-- A chain over a list has the fault of the first element that cannot be passed. -/
theorem foldlM_eq_error_iff {f : β → α → Except ε β} {start : β} {xs : List α} :
    xs.foldlM f start = .error fault ↔ ∃ before a after s, xs = before ++ a :: after ∧
      before.foldlM f start = .ok s ∧ f s a = .error fault := by
  induction xs generalizing start with
  | nil =>
    refine iff_of_false (fun h => by cases h) ?_
    intro ⟨before, a, after, s, h, _⟩
    simp at h
  | cons a xs ih =>
    rw [List.foldlM_cons, bind_eq_error_iff]
    constructor
    · intro h
      obtain h | ⟨s, hs, h⟩ := h
      · exact ⟨[], a, xs, start, rfl, rfl, h⟩
      · obtain ⟨before, a', after, s', rfl, hbefore, ha'⟩ := ih.mp h
        refine ⟨a :: before, a', after, s', rfl, ?_, ha'⟩
        rw [List.foldlM_cons, hs]
        exact hbefore
    · intro ⟨before, a', after, s', hsplit, hbefore, ha'⟩
      cases before with
      | nil =>
        cases hsplit
        cases hbefore
        exact .inl ha'
      | cons a'' before =>
        cases hsplit
        rw [List.foldlM_cons] at hbefore
        obtain ⟨s, hs, hrest⟩ := bind_eq_ok_iff.mp hbefore
        exact .inr ⟨s, hs, ih.mpr ⟨before, a', after, s', rfl, hrest, ha'⟩⟩

end FsGateway.Outcome
