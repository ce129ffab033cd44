import FsGateway.Proofs.Url.ReadBack

/-!
# Below a URL

A path that is appended to a URL without a query and a fragment extends the path of the URL, provided
that what stands before it is read as it was.

* `LeadsBelow`: whether a path leads below a URL.
* `leadsBelow_named`, `leadsBelow_rooted`, `leadsBelow_bare`: which paths do.
-/

namespace FsGateway.Url

variable {u : Url} {path : String} {steps : List (List Char)} {cs : List Char}

/-! ## Below a URL -/

/-- Whether a URL is another one with a path behind its own, whose slashes at the end do not count. -/
structure IsBelow (u : Url) (path : String) (url : Url) : Prop where
  scheme : url.scheme = u.scheme
  authority : url.authority = u.authority
  query : url.query = u.query
  path : url.path.text.toList = u.path.text.toList.rdropWhile (· = '/') ++ path.toList

/-- Whether a URL has no text but slashes behind the colon, so that a path would take the place of
its authority. The URL of a file has an authority anyway. -/
def EndsInSlashes (u : Url) : Prop :=
  kindOf u.scheme = .other ∧ (∃ a ∈ u.authority, a.text = "") ∧
    u.path.text.toList.rdropWhile (· = '/') = []

/-- Whether a path leads below a URL. -/
def LeadsBelow (u : Url) (path : String) : Prop := ∃ url, u.append path = .ok url ∧ u.IsBelow path url

/-! ## Extending segments -/

/-- Segments without the empty ones at the end. -/
def trimmed (parts : List (List Char)) : List (List Char) := parts.rdropWhile (· = [])

variable {parts : List (List Char)} {kind : Kind} {scheme : String}

theorem mem_of_mem_trimmed {part : List Char} (h : part ∈ trimmed parts) : part ∈ parts :=
  (List.rdropWhile_prefix _ _).mem h

theorem slashed_eq_nil_iff : slashed parts = [] ↔ parts = [] := by
  cases parts <;> simp [slashed]

theorem chopped_slashed (h : ∀ part ∈ parts, IsSegment kind part) :
    chopped (slashed parts) = slashed (trimmed parts) :=
  rdropWhile_slashed fun part hpart => (h part hpart).slash_notMem

theorem chopped_append (front : List Char) (h : ∀ part ∈ parts, IsSegment kind part)
    (hfront : (∀ c ∈ front.getLast?, c ≠ '/') ∨ trimmed parts ≠ []) :
    chopped (front ++ slashed parts) = front ++ slashed (trimmed parts) := by
  by_cases hnil : trimmed parts = []
  · have hslashed : chopped (slashed parts) = [] := by
      rw [chopped_slashed h, hnil]
      rfl
    have hlast := hfront.resolve_right (not_not_intro hnil)
    rw [hnil]
    refine (rdropWhile_append_of_nil hslashed front).trans ?_
    rw [show slashed [] = [] from rfl, List.append_nil, List.rdropWhile_eq_self_iff]
    intro hne hslash
    exact hlast _ (List.getLast?_eq_some_getLast hne) (of_decide_eq_true hslash)
  · have hslashed : chopped (slashed parts) ≠ [] := by
      rw [chopped_slashed h]
      exact mt slashed_eq_nil_iff.mp hnil
    rw [← chopped_slashed h]
    exact rdropWhile_append_of_ne_nil hslashed front

/-- The slashes before a name stay unless nothing else is left. -/
theorem chopped_named {name : List Char} (hname : '/' ∉ name)
    (h : ∀ part ∈ parts, IsSegment kind part) (hends : ¬(name = [] ∧ trimmed parts = [])) :
    chopped ('/' :: '/' :: (name ++ slashed parts)) =
      '/' :: '/' :: (name ++ slashed (trimmed parts)) := by
  refine chopped_append ('/' :: '/' :: name) h ?_
  by_cases hempty : name = []
  · exact .inr fun hnil => hends ⟨hempty, hnil⟩
  · refine .inl fun c hc => ?_
    have hlast := List.getLast?_append_of_ne_nil ['/', '/'] hempty
    have hmem : c ∈ name := List.mem_of_getLast? (hlast.symm.trans hc)
    rintro rfl
    exact hname hmem

theorem settled_extended (hsteps : AreSteps steps)
    (h : ∀ part ∈ parts, IsSegment kind part ∧ NoDots part) :
    ∀ part ∈ trimmed parts ++ steps, IsSegment kind part ∧ NoDots part :=
  List.forall_mem_append.mpr ⟨fun part hpart => h part (mem_of_mem_trimmed hpart),
    hsteps.segment kind⟩

theorem text_extended (hpath : path.toList = slashed steps)
    (h : ∀ part ∈ parts, IsSegment kind part) :
    (Path.segments ((trimmed parts ++ steps).map String.ofList)).text.toList =
      (Path.segments (parts.map String.ofList)).text.toList.rdropWhile (· = '/') ++
        path.toList := by
  have hchopped := chopped_slashed h
  rw [text_segments, text_segments, slashed_append, ← hpath, ← hchopped]
  rfl

/-! ## URLs with an authority -/

/-- Without an authority, steps make up a path. -/
theorem readBody_steps (hkind : kindOf scheme = .other) (hsteps : AreSteps steps) :
    readBody scheme ([] ++ slashed steps) =
      .ok ⟨scheme, none, .segments (steps.map String.ofList), none, none⟩ := by
  have hdouble : (Path.segments (steps.map String.ofList)).startsDoubleSlash = false := by
    rw [← Bool.not_eq_true, startsDoubleSlash_segments]
    rintro ⟨next, more, rfl⟩
    exact hsteps.ne_empty [] List.mem_cons_self rfl
  have hread := readBody_segments hkind hsteps.ne_nil (hsteps.segment .other) isTail_nil
    (.inr ⟨rfl, hdouble⟩)
  rwa [List.append_nil] at hread

/-- An empty authority gets lost with the slashes at the end. -/
theorem append_slashes {a : Authority}
    (h : Settled ⟨scheme, some a, .segments (parts.map String.ofList), none, none⟩)
    (hkind : kindOf scheme = .other) (hparts : ∀ part ∈ parts, IsSegment .other part)
    (hempty : a.text.toList = []) (htrimmed : trimmed parts = []) (hsteps : AreSteps steps)
    (hpath : path.toList = slashed steps) :
    append ⟨scheme, some a, .segments (parts.map String.ofList), none, none⟩ path =
      .ok ⟨scheme, none, .segments (steps.map String.ofList), none, none⟩ := by
  have hchopped : chopped (slashed parts) = [] := by
    rw [chopped_slashed hparts, htrimmed]
    rfl
  have hnone : chopped (bodyText ⟨scheme, some a, .segments (parts.map String.ofList), none, none⟩)
      = [] := by
    rw [bodyText_of_none rfl rfl, front_named, hempty, text_segments]
    exact rdropWhile_append_of_nil hchopped ['/', '/']
  have happend := append_eq h hsteps hpath
  rwa [hnone, readBody_steps hkind hsteps] at happend

/-- Any other authority is read again, and steps extend the path behind it. -/
theorem append_named {a : Authority}
    (h : Settled ⟨scheme, some a, .segments (parts.map String.ofList), none, none⟩)
    (hkind : kindOf scheme = kind) (hfile : kind ≠ .file) (ha : a.IsSettled kind)
    (hparts : ∀ part ∈ parts, IsSegment kind part ∧ NoDots part)
    (hends : ¬(a.text.toList = [] ∧ trimmed parts = [])) (hsteps : AreSteps steps)
    (hpath : path.toList = slashed steps) :
    append ⟨scheme, some a, .segments (parts.map String.ofList), none, none⟩ path =
      (takeAuthority scheme kind a.text.toList).map fun r =>
        ⟨scheme, some r.1, .segments ((trimmed parts ++ steps).map String.ofList), none, none⟩ := by
  have hextended := settled_extended hsteps hparts
  have hslash : '/' ∉ a.text.toList := fun hmem => (ha.chars '/' hmem).2 (by decide)
  have hchopped : chopped
      (bodyText ⟨scheme, some a, .segments (parts.map String.ofList), none, none⟩) =
        '/' :: '/' :: (a.text.toList ++ slashed (trimmed parts)) := by
    rw [bodyText_of_none rfl rfl, front_named, text_segments]
    refine chopped_append ('/' :: '/' :: a.text.toList) (fun part hpart => (hparts part hpart).1) ?_
    by_cases hempty : a.text.toList = []
    · exact .inr fun hnil => hends ⟨hempty, hnil⟩
    · refine .inl fun c hc => ?_
      have hlast := List.getLast?_append_of_ne_nil ['/', '/'] hempty
      have hmem : c ∈ a.text.toList := List.mem_of_getLast? (hlast.symm.trans hc)
      rintro rfl
      exact hslash hmem
  have hbelow := readBody_named hkind hfile ha (fun part hpart => (hextended part hpart).1)
    isTail_nil
  have happend := append_eq h hsteps hpath
  rw [List.append_nil, slashed_append, ← List.append_assoc, ← slashed_append,
    pathOf_slashed hfile (by simp [hsteps.ne_nil]) hextended] at hbelow
  rwa [hchopped, List.cons_append, List.cons_append, hbelow] at happend

theorem endsInSlashes_iff {a : Authority} (hparts : ∀ part ∈ parts, IsSegment kind part) :
    EndsInSlashes ⟨scheme, some a, .segments (parts.map String.ofList), none, none⟩ ↔
      kindOf scheme = .other ∧ a.text.toList = [] ∧ trimmed parts = [] := by
  have hchopped := chopped_slashed hparts
  unfold EndsInSlashes
  rw [text_segments]
  change _ ∧ _ ∧ chopped (slashed parts) = [] ↔ _
  rw [hchopped, slashed_eq_nil_iff, String.toList_eq_nil_iff]
  simp

theorem leadsBelow_named {a : Authority}
    (h : Settled ⟨scheme, some a, .segments (parts.map String.ofList), none, none⟩)
    (hkind : kindOf scheme = kind) (hfile : kind ≠ .file) (ha : a.IsSettled kind)
    (hparts : ∀ part ∈ parts, IsSegment kind part ∧ NoDots part)
    (hne : kind = .special → parts ≠ []) (hsteps : AreSteps steps)
    (hpath : path.toList = slashed steps) :
    LeadsBelow ⟨scheme, some a, .segments (parts.map String.ofList), none, none⟩ path ↔
      ReadsBack ⟨scheme, some a, .segments (parts.map String.ofList), none, none⟩ ∧
        ¬EndsInSlashes ⟨scheme, some a, .segments (parts.map String.ofList), none, none⟩ := by
  have hsegments : ∀ part ∈ parts, IsSegment kind part := fun part hpart => (hparts part hpart).1
  rw [endsInSlashes_iff hsegments]
  by_cases hends : a.text.toList = [] ∧ trimmed parts = []
  · obtain ⟨hempty, htrimmed⟩ := hends
    have hother : kind = .other := by
      by_contra hne
      exact ha.ne_empty hne (String.toList_eq_nil_iff.mp hempty)
    subst hother
    refine iff_of_false ?_ fun hright => hright.2 ⟨hkind, hempty, htrimmed⟩
    rintro ⟨url, hurl, hbelow⟩
    rw [append_slashes h hkind hsegments hempty htrimmed hsteps hpath] at hurl
    cases hurl
    cases hbelow.authority
  · rw [LeadsBelow, append_named h hkind hfile ha hparts hends hsteps hpath,
      readsBack_named_iff h hkind hfile ha hparts hne, and_iff_left fun hright => hends hright.2]
    cases takeAuthority scheme kind a.text.toList with
    | error fault => exact iff_of_false (by rintro ⟨url, ⟨⟩, -⟩) (by rintro ⟨rest, ⟨⟩⟩)
    | ok r =>
      obtain ⟨a', rest⟩ := r
      constructor
      · rintro ⟨url, hurl, hurl'⟩
        cases hurl
        cases hurl'.authority
        exact ⟨rest, rfl⟩
      · rintro ⟨rest, ⟨⟩⟩
        exact ⟨_, rfl, rfl, rfl, rfl, text_extended hpath hsegments⟩

/-! ## URLs without an authority -/

theorem not_endsInSlashes_of_none (hauthority : u.authority = none) : ¬u.EndsInSlashes := by
  rintro ⟨-, ⟨a, ha, -⟩, -⟩
  rw [hauthority] at ha
  cases ha

theorem leadsBelow_rooted
    (h : Settled ⟨scheme, none, .segments (parts.map String.ofList), none, none⟩)
    (hkind : kindOf scheme = .other)
    (hparts : ∀ part ∈ parts, IsSegment .other part ∧ NoDots part)
    (hsteps : AreSteps steps) (hpath : path.toList = slashed steps) :
    LeadsBelow ⟨scheme, none, .segments (parts.map String.ofList), none, none⟩ path := by
  have hsegments : ∀ part ∈ parts, IsSegment .other part := fun part hpart => (hparts part hpart).1
  have hfront := front_rooted scheme (.segments (parts.map String.ofList)) none none
  have hlast : ∀ c ∈ (frontText ⟨scheme, none, .segments (parts.map String.ofList), none,
      none⟩).toList.getLast?, c ≠ '/' := by
    rcases hfront with hdot | ⟨hnil, -⟩
    · rw [hdot]
      simp
    · rw [hnil]
      simp
  -- Two slashes at the start of the longer path are two slashes at the start of the shorter one.
  have hfront' : (frontText ⟨scheme, none, .segments (parts.map String.ofList), none,
      none⟩).toList = ['/', '.'] ∨
      (frontText ⟨scheme, none, .segments (parts.map String.ofList), none, none⟩).toList = [] ∧
        (Path.segments ((trimmed parts ++ steps).map String.ofList)).startsDoubleSlash = false := by
    refine hfront.imp_right fun ⟨hnil, hsingle⟩ => ⟨hnil, ?_⟩
    rw [← Bool.not_eq_true, startsDoubleSlash_segments] at hsingle ⊢
    rintro ⟨next, more, hdouble⟩
    obtain ⟨rest, hrest⟩ := List.rdropWhile_prefix (fun part => decide (part = [])) parts
    change trimmed parts ++ rest = parts at hrest
    cases htrimmed : trimmed parts with
    | nil =>
      rw [htrimmed, List.nil_append] at hdouble
      exact hsteps.ne_empty [] (hdouble ▸ List.mem_cons_self) rfl
    | cons part kept =>
      rw [htrimmed] at hdouble hrest
      injection hdouble with hpart _
      subst hpart
      cases htail : kept ++ rest with
      | nil =>
        rw [List.cons_append, htail] at hrest
        rw [← hrest] at htrimmed
        cases htrimmed
      | cons next' more' =>
        rw [List.cons_append, htail] at hrest
        exact hsingle ⟨next', more', hrest.symm⟩
  have hextended := settled_extended hsteps hparts
  have hbelow := readBody_segments hkind (by simp [hsteps.ne_nil]) hextended isTail_nil hfront'
  have happend := append_eq h hsteps hpath
  rw [bodyText_of_none rfl rfl, text_segments, chopped_append _ hsegments (.inl hlast),
    List.append_assoc, ← slashed_append, ← List.append_nil (slashed _), hbelow] at happend
  exact ⟨_, happend, rfl, rfl, rfl, text_extended hpath hsegments⟩

theorem leadsBelow_bare {bare : List Char}
    (h : Settled ⟨scheme, none, .bare (String.ofList bare), none, none⟩)
    (hkind : kindOf scheme = .other) (hhead : bare.head? ≠ some '/') (hbare : IsPath bare)
    (hkept : ∀ c ∈ bare, EncodeSet.controls.contains c = false)
    (hsteps : AreSteps steps) (hpath : path.toList = slashed steps) :
    LeadsBelow ⟨scheme, none, .bare (String.ofList bare), none, none⟩ path := by
  have hbody : bodyText ⟨scheme, none, .bare (String.ofList bare), none, none⟩ = bare := by
    simp [bodyText_of_none, front_bare, Path.text]
  have happend := append_eq h hsteps hpath
  by_cases hnil : chopped bare = []
  · rw [hbody, hnil, readBody_steps hkind hsteps] at happend
    refine ⟨_, happend, rfl, rfl, rfl, ?_⟩
    rw [text_segments, Path.text, String.toList_ofList, hpath]
    exact (congrArg (· ++ slashed steps) hnil).symm
  · have hmem : ∀ c ∈ chopped bare, c ∈ bare := fun c hc => (List.rdropWhile_prefix _ _).mem hc
    have hextended : IsPath (chopped bare ++ slashed steps) := List.forall_mem_append.mpr
      ⟨fun c hc => hbare c (hmem c hc),
        isPath_slashed fun step hstep => (hsteps.segment .other step hstep).1⟩
    have hkept' : ∀ c ∈ chopped bare ++ slashed steps, EncodeSet.controls.contains c = false :=
      List.forall_mem_append.mpr ⟨fun c hc => hkept c (hmem c hc), hsteps.controls⟩
    have hhead' : ((chopped bare ++ slashed steps) ++ []).head? ≠ some '/' := by
      obtain ⟨rest, hrest⟩ := List.rdropWhile_prefix (fun c => decide (c = '/')) bare
      change chopped bare ++ rest = bare at hrest
      obtain ⟨c, more, hcons⟩ := List.exists_cons_of_ne_nil hnil
      rw [← hrest, hcons] at hhead
      rw [hcons]
      exact hhead
    have hbelow := readBody_bare hkind hhead' hextended isTail_nil
    rw [List.append_nil, percentEncode_of_forall hkept'] at hbelow
    rw [hbody, hbelow] at happend
    refine ⟨_, happend, rfl, rfl, rfl, ?_⟩
    rw [Path.text, Path.text, String.toList_ofList, String.toList_ofList, hpath]
    rfl

end FsGateway.Url
