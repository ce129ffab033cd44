import FsGateway.Mount.Path

/-!
# Telling paths apart

* `Path.same_iff_key`: paths name one place where their keys are one.
* `Path.exists_components`: a suffix without slashes is added to the last component.
-/

namespace FsGateway.Mount.Path

/-- What tells mount points apart. -/
def key (p : Path) : Bool × List (List Char) := (p.isAbsolute, p.components)

theorem same_iff_key {p q : Path} : p.same q = true ↔ p.key = q.key := by
  simp [same, key]

/-! ## Suffixes -/

variable {cs : List Char}

theorem parts_of_not_mem (h : '/' ∉ cs) : parts cs = [cs] := by
  induction cs with
  | nil => rfl
  | cons c cs ih =>
    obtain ⟨hc, hcs⟩ := not_or.mp (mt List.mem_cons.mpr h)
    rw [parts, if_neg (Ne.symm hc), ih hcs]

/-- A suffix without slashes is added to the last part. -/
theorem exists_parts (cs : List Char) : ∃ before last, parts cs = before ++ [last] ∧
    ∀ suffix, '/' ∉ suffix → parts (cs ++ suffix) = before ++ [last ++ suffix] := by
  induction cs with
  | nil => exact ⟨[], [], rfl, fun suffix h => parts_of_not_mem h⟩
  | cons c cs ih =>
    obtain ⟨before, last, hparts, hsuffix⟩ := ih
    by_cases hc : c = '/'
    · refine ⟨[] :: before, last, ?_, fun suffix h => ?_⟩
      · rw [parts, if_pos hc, hparts]
        rfl
      · rw [List.cons_append, parts, if_pos hc, hsuffix suffix h]
        rfl
    · cases before with
      | nil =>
        refine ⟨[], c :: last, ?_, fun suffix h => ?_⟩
        · rw [parts, if_neg hc, hparts]
          rfl
        · rw [List.cons_append, parts, if_neg hc, hsuffix suffix h]
          rfl
      | cons first before =>
        refine ⟨(c :: first) :: before, last, ?_, fun suffix h => ?_⟩
        · rw [parts, if_neg hc, hparts]
          rfl
        · rw [List.cons_append, parts, if_neg hc, hsuffix suffix h]
          rfl

/-- The components that parts are kept as. -/
def kept (ps : List (List Char)) : List (List Char) :=
  (if ps.head? = some ['.'] then [['.']] else []) ++ ps.filter fun c => c ≠ [] && c ≠ ['.']

theorem components_eq_kept (p : Path) : p.components = kept (parts p.text.toList) := by
  by_cases h : (parts p.text.toList).head? = some ['.'] <;> simp [components, kept, h]

theorem kept_cons (first last : List Char) (before : List (List Char)) :
    kept (first :: before ++ [last]) = kept (first :: before) ++
      [last].filter fun c => c ≠ [] && c ≠ ['.'] := by
  unfold kept
  rw [List.filter_append, List.cons_append, List.head?_cons, List.head?_cons, List.append_assoc]

/-- The last part is kept or left out. -/
theorem kept_concat (before : List (List Char)) (last : List Char) :
    kept (before ++ [last]) = kept before ∨ kept (before ++ [last]) = kept before ++ [last] := by
  cases before with
  | nil =>
    by_cases hnil : last = []
    · simp [kept, hnil]
    · by_cases hdot : last = ['.'] <;> simp [kept, hnil, hdot]
  | cons first before =>
    rw [kept_cons]
    by_cases hnil : last = []
    · simp [hnil]
    · by_cases hdot : last = ['.'] <;> simp [hnil, hdot]

theorem kept_concat_of_length {last : List Char} (before : List (List Char))
    (h : 2 ≤ last.length) : kept (before ++ [last]) = kept before ++ [last] := by
  have hnil : last ≠ [] := by
    rintro rfl
    simp at h
  have hdot : last ≠ ['.'] := by
    rintro rfl
    simp at h
  cases before with
  | nil => simp [kept, hnil, hdot]
  | cons first before =>
    rw [kept_cons]
    simp [hnil, hdot]

variable {p : Path}

/-- A suffix without slashes that is longer than a dot is added to the last component, if there is
one. -/
theorem exists_components (p : Path) : ∃ base last,
    (p.components = base ∨ p.components = base ++ [last]) ∧
    ∀ suffix : String, '/' ∉ suffix.toList → 2 ≤ suffix.toList.length →
      (p.withSuffix suffix).components = base ++ [last ++ suffix.toList] := by
  obtain ⟨before, last, hparts, hsuffix⟩ := exists_parts p.text.toList
  refine ⟨kept before, last, ?_, fun suffix hslash hlong => ?_⟩
  · rw [components_eq_kept, hparts]
    exact kept_concat before last
  · rw [components_eq_kept, withSuffix, String.toList_append, hsuffix _ hslash]
    apply kept_concat_of_length
    rw [List.length_append]
    omega

theorem withSuffix_withSuffix (p : Path) (first second : String) :
    (p.withSuffix first).withSuffix second = p.withSuffix (first ++ second) := by
  simp [withSuffix, String.append_assoc]

/-- Paths with suffixes without slashes that are longer than a dot are told apart by them. -/
theorem withSuffix_key_inj {first second : String} (hfirst : '/' ∉ first.toList)
    (hsecond : '/' ∉ second.toList) (hlong : 2 ≤ first.toList.length)
    (hlong' : 2 ≤ second.toList.length)
    (h : (p.withSuffix first).key = (p.withSuffix second).key) : first = second := by
  obtain ⟨base, last, -, hsuffix⟩ := exists_components p
  have hcomponents := congrArg Prod.snd h
  simp only [key, hsuffix _ hfirst hlong, hsuffix _ hsecond hlong'] at hcomponents
  have hlast := List.append_cancel_left hcomponents
  exact String.toList_injective (List.append_cancel_left (List.cons.inj hlast).1)

theorem withSuffix_key_ne {suffix : String} (hslash : '/' ∉ suffix.toList)
    (hlong : 2 ≤ suffix.toList.length) : p.key ≠ (p.withSuffix suffix).key := by
  obtain ⟨base, last, hp, hsuffix⟩ := exists_components p
  intro h
  have hcomponents := congrArg Prod.snd h
  simp only [key, hsuffix _ hslash hlong] at hcomponents
  obtain hp | hp := hp
  · rw [hp] at hcomponents
    have hlen := congrArg List.length hcomponents
    simp at hlen
  · rw [hp] at hcomponents
    have hlast := (List.cons.inj (List.append_cancel_left hcomponents)).1
    have hlen := congrArg List.length hlast
    rw [List.length_append] at hlen
    omega

end FsGateway.Mount.Path
