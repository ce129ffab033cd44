import FsGateway.Proofs.Url.Body

/-!
# What a URL that was read consists of

Whatever text a URL was read from, its parts hold only what is written as it is.

* `Settled`: the parts of a URL that was read.
* `settled_of_parse`: every URL that was read is like this.
-/

namespace FsGateway.Url

variable {kind : Kind} {scheme : String} {cs : List Char}

/-- The query and the fragment as they stand behind a path. -/
def tailText (u : Url) : String :=
  u.query.elim "" ("?" ++ ·) ++ u.fragment.elim "" ("#" ++ ·)

/-- The path, and the authority if there is one. -/
inductive HasParts : Url → Prop
  | named {scheme : String} {kind : Kind} {a : Authority} {parts : List (List Char)}
      {query fragment : Option String} : kindOf scheme = kind → kind ≠ .file → a.IsRead scheme kind →
      (∀ part ∈ parts, IsSegment kind part ∧ NoDots part) → (kind = .special → parts ≠ []) →
      HasParts ⟨scheme, some a, .segments (parts.map String.ofList), query, fragment⟩
  | rooted {scheme : String} {parts : List (List Char)} {query fragment : Option String} :
      kindOf scheme = .other → (∀ part ∈ parts, IsSegment .other part ∧ NoDots part) → parts ≠ [] →
      HasParts ⟨scheme, none, .segments (parts.map String.ofList), query, fragment⟩
  /-- The text does not end with a space unless something follows it. -/
  | bare {scheme : String} {path : List Char} {query fragment : Option String} :
      kindOf scheme = .other → path.head? ≠ some '/' → IsPath path →
      (∀ c ∈ path, EncodeSet.controls.contains c = false) →
      (query = none → fragment = none → ∀ c ∈ path.getLast?, isTrimmed c = false) →
      HasParts ⟨scheme, none, .bare (String.ofList path), query, fragment⟩
  /-- The path of a file does not start with empty segments. -/
  | file {host : Host} {parts : List (List Char)} {query fragment : Option String} :
      (host.text = "" → host = .name "") → (∀ c ∈ host.text.toList, IsHostChar c) →
      (∀ part ∈ parts, IsSegment .file part) → IsFilePath parts →
      HasParts ⟨"file", some ⟨"", "", host, none⟩, .segments (parts.map String.ofList), query,
        fragment⟩

/-- The parts of a URL that was read. -/
structure Settled (u : Url) : Prop where
  scheme : IsScheme u.scheme.toList
  parts : HasParts u
  tail : ∀ c ∈ u.tailText.toList, isBreak c = false

/-! ## Queries and fragments -/

theorem isBreak_percentEncode (set : EncodeSet) (cs : List Char) :
    ∀ c ∈ (String.ofList (percentEncode set cs)).toList, isBreak c = false := by
  intro c hc
  rw [String.toList_ofList] at hc
  exact isBreak_of_kept (contains_of_mem_percentEncode hc)

theorem isBreak_tail (kind : Kind) (cs : List Char) :
    (∀ s ∈ (queryAndFragment kind cs).1, ∀ c ∈ s.toList, isBreak c = false) ∧
      ∀ s ∈ (queryAndFragment kind cs).2, ∀ c ∈ s.toList, isBreak c = false := by
  unfold queryAndFragment
  generalize (if kind = .other then EncodeSet.query else .specialQuery) = set
  dsimp only
  split
  · rename_i rest
    refine ⟨?_, ?_⟩
    · rintro s ⟨⟩
      exact isBreak_percentEncode _ _
    · dsimp only
      split
      · rintro s ⟨⟩
        exact isBreak_percentEncode _ _
      · simp
  · refine ⟨by simp, ?_⟩
    rintro s ⟨⟩
    exact isBreak_percentEncode _ _
  · simp

theorem isBreak_tailText {u : Url} (hquery : ∀ s ∈ u.query, ∀ c ∈ s.toList, isBreak c = false)
    (hfragment : ∀ s ∈ u.fragment, ∀ c ∈ s.toList, isBreak c = false) :
    ∀ c ∈ u.tailText.toList, isBreak c = false := by
  have hmark : ∀ c ∈ "?".toList, isBreak c = false := List.all_iff_forall_prop.mp (by decide)
  have hsharp : ∀ c ∈ "#".toList, isBreak c = false := List.all_iff_forall_prop.mp (by decide)
  rw [tailText, String.toList_append]
  refine List.forall_mem_append.mpr ⟨?_, ?_⟩
  · cases hq : u.query with
    | none => simp
    | some q =>
      rw [Option.elim_some, String.toList_append]
      exact List.forall_mem_append.mpr ⟨hmark, hquery q hq⟩
  · cases hf : u.fragment with
    | none => simp
    | some f =>
      rw [Option.elim_some, String.toList_append]
      exact List.forall_mem_append.mpr ⟨hsharp, hfragment f hf⟩

/-! ## Paths -/

theorem exists_parts_pathOf (hkind : kind ≠ .file) (cs : List Char) :
    ∃ parts, pathOf kind cs = .segments (parts.map String.ofList) ∧
      (∀ part ∈ parts, IsSegment kind part ∧ NoDots part) ∧
      (kind = .special ∨ cs ≠ [] → parts ≠ []) := by
  unfold pathOf
  split
  · rename_i hempty
    split
    · rename_i hother
      refine ⟨[], rfl, by simp, ?_⟩
      rintro (hspecial | hne)
      · rw [hother] at hspecial
        cases hspecial
      · exact absurd (List.isEmpty_iff.mp hempty) hne
    · exact ⟨[[]], rfl, by simpa using ⟨isSegment_nil kind, noDots_nil⟩, by simp⟩
  · obtain ⟨hsettled, hne⟩ := walk_parts kind ((dropSlash? kind cs).getD cs)
    exact ⟨_, rfl, fun part hpart => ⟨(hsettled part hpart).1, (hsettled part hpart).2 hkind⟩,
      fun _ => hne⟩

/-! ## URLs -/

theorem settled_finish (hscheme : IsScheme scheme.toList) (hkind : kindOf scheme = kind)
    (hfile : kind ≠ .file) {a : Authority} (ha : a.IsRead scheme kind) (cs : List Char) :
    Settled (finish scheme kind (some a) cs) := by
  obtain ⟨parts, hpath, hparts, hne⟩ := exists_parts_pathOf hfile (beforeQuery cs)
  obtain ⟨hquery, hfragment⟩ := isBreak_tail kind (cs.drop (beforeQuery cs).length)
  refine ⟨hscheme, ?_, isBreak_tailText hquery hfragment⟩
  show HasParts ⟨scheme, some a, pathOf kind (beforeQuery cs), _, _⟩
  rw [hpath]
  exact .named hkind hfile ha hparts fun hspecial => hne (.inl hspecial)

theorem settled_finish_none (hscheme : IsScheme scheme.toList) (hkind : kindOf scheme = .other)
    (cs : List Char) : Settled (finish scheme .other none ('/' :: cs)) := by
  obtain ⟨parts, hpath, hparts, hne⟩ :=
    exists_parts_pathOf (show Kind.other ≠ .file by decide) (beforeQuery ('/' :: cs))
  obtain ⟨hquery, hfragment⟩ := isBreak_tail .other (('/' :: cs).drop (beforeQuery ('/' :: cs)).length)
  refine ⟨hscheme, ?_, isBreak_tailText hquery hfragment⟩
  show HasParts ⟨scheme, none, pathOf .other (beforeQuery ('/' :: cs)), _, _⟩
  rw [hpath]
  exact .rooted hkind hparts (hne (.inr (by simp [beforeQuery])))

theorem settled_finishFile {host : Host} (htext : host.text = "" → host = .name "")
    (hchars : ∀ c ∈ host.text.toList, IsHostChar c) (cs : List Char) :
    Settled (finishFile host cs) := by
  have hparts := (walk_parts .file (beforeQuery cs)).1.fileParts
  have hhead := (walk .file (beforeQuery cs)).isFilePath
  obtain ⟨hquery, hfragment⟩ :=
    isBreak_tail .file (unbroken (cs.drop (beforeQuery cs).length))
  have hscheme : IsScheme "file".toList :=
    ⟨⟨'f', by simp, by decide⟩, List.all_iff_forall_prop.mp (by decide)⟩
  refine ⟨hscheme, ?_, isBreak_tailText hquery hfragment⟩
  show HasParts ⟨"file", some ⟨"", "", if (walk .file (beforeQuery cs)).onDrive then .name "" else host,
    none⟩, (walk .file (beforeQuery cs)).filePath, _, _⟩
  rw [Walk.filePath_eq]
  split
  · exact .file (fun _ => rfl) (by simp [Host.text]) hparts hhead
  · exact .file htext hchars hparts hhead

theorem isTrimmed_percentEncode (h : ∀ c ∈ cs.getLast?, isTrimmed c = false) :
    ∀ c ∈ (percentEncode .controls cs).getLast?, isTrimmed c = false := by
  have hdigit : ∀ n < 16, isTrimmed (upperHex n) = false := by decide
  cases hlast : cs.getLast? with
  | none =>
    rw [List.getLast?_eq_none_iff.mp hlast]
    simp [percentEncode]
  | some x =>
    obtain ⟨front, rfl⟩ := List.getLast?_eq_some_iff.mp hlast
    have hne : encodeChar .controls x ≠ [] := by
      intro hnil
      have hsingle : percentEncode .controls [x] = [] := by simp [percentEncode, hnil]
      cases eq_of_percentEncode_eq hsingle (by simp)
    intro c hc
    rw [percentEncode, List.flatMap_append, List.flatMap_singleton,
      List.getLast?_append_of_ne_nil _ hne] at hc
    rcases mem_encodeChar (List.mem_of_getLast? hc) with ⟨rfl, -⟩ | rfl | ⟨n, hn, rfl⟩
    · exact h c hlast
    · decide
    · exact hdigit n hn

/-- The characters before and after the start of a query or a fragment. -/
theorem beforeQuery_append_drop (cs : List Char) :
    ∃ tail, cs = beforeQuery cs ++ tail ∧ IsTail tail ∧ cs.drop (beforeQuery cs).length = tail := by
  have hsplit := List.takeWhile_append_dropWhile (p := fun c => c ≠ '?' && c ≠ '#') (l := cs)
  refine ⟨cs.dropWhile fun c => c ≠ '?' && c ≠ '#', hsplit.symm, ?_, ?_⟩
  · intro c hc
    have hnot := List.head?_dropWhile_not (fun c => c ≠ '?' && c ≠ '#') cs
    rw [hc] at hnot
    by_cases hmark : c = '?'
    · exact .inl hmark
    · exact .inr (by simpa [hmark] using hnot)
  · exact (congrArg (List.drop (beforeQuery cs).length) hsplit.symm).trans List.drop_left

theorem eq_nil_of_isTail {tail : List Char} (h : IsTail tail)
    (hquery : (queryAndFragment kind tail).1 = none)
    (hfragment : (queryAndFragment kind tail).2 = none) : tail = [] := by
  cases tail with
  | nil => rfl
  | cons c tail =>
    rcases h c rfl with rfl | rfl
    · cases hquery
    · cases hfragment

theorem settled_parseFile {u : Url} (h : parseFile cs = .ok u) : Settled u := by
  have hempty : ∀ cs, Settled (finishFile (.name "") cs) :=
    fun cs => settled_finishFile (fun _ => rfl) (by simp [Host.text]) cs
  unfold parseFile at h
  split at h
  · cases h
    exact hempty _
  · split at h
    · cases h
      exact hempty _
    · dsimp only at h
      split at h
      · cases h
        exact hempty _
      · split at h
        · cases h
          exact hempty _
        · split at h
          · cases h
          · rename_i host hhost
            split at h
            · cases h
              exact hempty _
            · cases h
              obtain ⟨htext, hchars⟩ := Host.text_of_parse hhost
              exact settled_finishFile (fun hnil => absurd hnil htext) hchars _

theorem settled_bare (hscheme : IsScheme scheme.toList) (hkind : kindOf scheme = .other)
    (hhead : cs.head? ≠ some '/') (hlast : ∀ c ∈ cs.getLast?, isTrimmed c = false) :
    Settled ⟨scheme, none, .bare (String.ofList (percentEncode .controls (beforeQuery cs))),
      (queryAndFragment .other (cs.drop (beforeQuery cs).length)).1,
      (queryAndFragment .other (cs.drop (beforeQuery cs).length)).2⟩ := by
  obtain ⟨hquery, hfragment⟩ := isBreak_tail .other (cs.drop (beforeQuery cs).length)
  obtain ⟨tail, hsplit, htail, hdrop⟩ := beforeQuery_append_drop cs
  refine ⟨hscheme, .bare hkind ?_ ?_ ?_ ?_, isBreak_tailText hquery hfragment⟩
  · intro hslash
    obtain ⟨rest, hcons⟩ := List.head?_eq_some_iff.mp hslash
    obtain ⟨rest', hpath, -⟩ := exists_of_percentEncode_eq_cons hcons (by decide)
    rw [hsplit, hpath] at hhead
    exact hhead rfl
  · intro c hc
    have hdigit : ∀ n < 16, upperHex n ≠ '?' ∧ upperHex n ≠ '#' := by decide
    rcases mem_percentEncode hc with ⟨hmem, -⟩ | rfl | ⟨n, hn, rfl⟩
    · simpa using List.mem_takeWhile_imp hmem
    · decide
    · exact hdigit n hn
  · exact fun c hc => contains_of_mem_percentEncode hc
  · intro hq hf
    rw [hdrop] at hq hf
    rw [eq_nil_of_isTail htail hq hf, List.append_nil] at hsplit
    rw [← hsplit]
    exact isTrimmed_percentEncode hlast

/-- What every URL that was read consists of. -/
theorem settled_of_parse {s : String} {u : Url} (h : parse s = .ok u) : Settled u := by
  obtain ⟨scheme, body, hscheme, hbody, hlast⟩ := exists_readBody h
  have hscheme' : IsScheme (String.ofList scheme).toList := by rwa [String.toList_ofList]
  unfold readBody at hbody
  split at hbody
  · exact settled_parseFile hbody
  · rename_i hkind
    cases hread : takeAuthority (String.ofList scheme) .special
        (body.dropWhile (isSlash .special)) with
    | error fault =>
      rw [hread] at hbody
      cases hbody
    | ok r =>
      rw [hread] at hbody
      cases hbody
      exact settled_finish hscheme' hkind (by decide) (isRead_of_takeAuthority hread) _
  · rename_i hkind
    split at hbody
    · rename_i rest
      cases hread : takeAuthority (String.ofList scheme) .other rest with
      | error fault =>
        rw [hread] at hbody
        cases hbody
      | ok r =>
        rw [hread] at hbody
        cases hbody
        exact settled_finish hscheme' hkind (by decide) (isRead_of_takeAuthority hread) _
    · cases hbody
      exact settled_finish_none hscheme' hkind _
    · rename_i hnone
      cases hbody
      refine settled_bare hscheme' hkind (fun hslash => ?_) (hlast (by simp [hkind]))
      obtain ⟨rest, hcons⟩ := List.head?_eq_some_iff.mp hslash
      exact hnone rest hcons

end FsGateway.Url
