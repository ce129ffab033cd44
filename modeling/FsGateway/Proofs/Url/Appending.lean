import FsGateway.Proofs.Url.Settled

/-!
# Appending to a URL

A path is appended to the text of a URL, less the slashes at its end, and the whole is read.

* `append_eq`: what is read when a path is appended.
* `ReadsBack`: whether a URL is what its own text stands for.
* `exists_path_of_append`: behind a query or a fragment every path leads to the same place.
-/

namespace FsGateway.Url

variable {u : Url} {path : String} {steps : List (List Char)} {cs : List Char}

/-! ## Slashes at the end -/

theorem rdropWhile_append_of_nil {α : Type} {p : α → Bool} {ys : List α}
    (h : ys.rdropWhile p = []) (xs : List α) : (xs ++ ys).rdropWhile p = xs.rdropWhile p := by
  have hnil : ys.reverse.dropWhile p = [] := List.reverse_eq_nil_iff.mp h
  simp [List.rdropWhile, List.dropWhile_append, hnil]

theorem rdropWhile_append_of_ne_nil {α : Type} {p : α → Bool} {ys : List α}
    (h : ys.rdropWhile p ≠ []) (xs : List α) : (xs ++ ys).rdropWhile p = xs ++ ys.rdropWhile p := by
  have hne : ys.reverse.dropWhile p ≠ [] := mt List.reverse_eq_nil_iff.mpr h
  simp [List.rdropWhile, List.dropWhile_append, hne]

/-- The text without the slashes at its end. -/
def chopped (cs : List Char) : List Char := cs.rdropWhile (· = '/')

theorem chopped_cons {c : Char} (hc : c ≠ '/') (cs : List Char) : chopped (c :: cs) = c :: chopped cs := by
  by_cases h : chopped cs = []
  · have happend := rdropWhile_append_of_nil h [c]
    rw [List.rdropWhile_singleton, if_neg (by simpa using hc)] at happend
    rw [h]
    exact happend
  · exact rdropWhile_append_of_ne_nil h [c]

/-! ## The text of a URL -/

/-- What stands between the colon and the path. -/
def frontText (u : Url) : String :=
  match u.authority with
  | some a => "//" ++ a.text
  | none => if u.path.startsDoubleSlash then "/." else ""

/-- What stands behind the colon. -/
def bodyText (u : Url) : List Char :=
  u.frontText.toList ++ (u.path.text.toList ++ u.tailText.toList)

theorem text_eq (u : Url) : u.text.toList = u.scheme.toList ++ ':' :: u.bodyText := by
  have htext : u.text = u.scheme ++ ":" ++ u.frontText ++ u.path.text
    ++ u.query.elim "" ("?" ++ ·) ++ u.fragment.elim "" ("#" ++ ·) := rfl
  simp [htext, bodyText, tailText]

theorem appendText_eq (u : Url) (path : String) :
    u.appendText path =
      String.ofList (u.scheme.toList ++ ':' :: (chopped u.bodyText ++ path.toList)) := by
  have hchopped : chopped u.text.toList = u.scheme.toList ++ ':' :: chopped u.bodyText := by
    have hcolon := chopped_cons (show ':' ≠ '/' by decide) u.bodyText
    rw [text_eq, ← hcolon]
    refine rdropWhile_append_of_ne_nil ?_ u.scheme.toList
    change chopped (':' :: u.bodyText) ≠ []
    simp [hcolon]
  show String.ofList (chopped u.text.toList) ++ path = _
  rw [hchopped, ← String.toList_inj]
  simp

/-! ## What is appended -/

/-- Segments that extend any path. -/
structure AreSteps (steps : List (List Char)) : Prop where
  ne_nil : steps ≠ []
  segment : ∀ kind, ∀ step ∈ steps, IsSegment kind step ∧ NoDots step
  ne_empty : ∀ step ∈ steps, step ≠ []
  noDrive : ∀ step ∈ steps, isDriveLetter step = false

theorem isTrimmed_of_kept {c : Char} (h : EncodeSet.path.contains c = false) : isTrimmed c = false := by
  obtain ⟨hlow, -, hprintable⟩ := printable_of_not_contains h
  have hspace : c ≠ ' ' := fun hc => hprintable (hc ▸ by decide)
  have hvalue : c.toNat ≠ 0x20 := fun hc => hspace (Char.toNat_inj.mp hc)
  simp only [isTrimmed, decide_eq_false_iff_not]
  omega

theorem chars_slashed {kind : Kind} {parts : List (List Char)}
    (h : ∀ part ∈ parts, IsSegment kind part) :
    ∀ c ∈ slashed parts, isBreak c = false ∧ isTrimmed c = false := by
  intro c hc
  obtain ⟨part, hpart, hc⟩ := List.mem_flatMap.mp hc
  rcases List.mem_cons.mp hc with rfl | hc
  · decide
  · have hkept := (h part hpart).kept c hc
    exact ⟨isBreak_of_kept hkept, isTrimmed_of_kept hkept⟩

theorem AreSteps.chars (h : AreSteps steps) :
    ∀ c ∈ slashed steps, isBreak c = false ∧ isTrimmed c = false :=
  chars_slashed fun step hstep => (h.segment .other step hstep).1

theorem AreSteps.controls (h : AreSteps steps) :
    ∀ c ∈ slashed steps, EncodeSet.controls.contains c = false := by
  have hcontrols : ∀ c, EncodeSet.path.contains c = false → EncodeSet.controls.contains c = false := by
    intro c hc
    obtain ⟨hlow, hhigh, -⟩ := printable_of_not_contains hc
    simp only [EncodeSet.contains, EncodeSet.printable, List.contains_nil, Bool.or_false,
      Bool.or_eq_false_iff, decide_eq_false_iff_not]
    omega
  intro c hc
  obtain ⟨step, hstep, hc⟩ := List.mem_flatMap.mp hc
  rcases List.mem_cons.mp hc with rfl | hc
  · decide
  · exact hcontrols c ((h.segment .other step hstep).1.kept c hc)

theorem AreSteps.getLast? (h : AreSteps steps) (front : List Char) :
    ∀ c ∈ (front ++ slashed steps).getLast?, isTrimmed c = false := by
  obtain ⟨step, more, rfl⟩ := List.exists_cons_of_ne_nil h.ne_nil
  intro c hc
  rw [List.getLast?_append_of_ne_nil _ (by simp [slashed_cons])] at hc
  exact (h.chars c (List.mem_of_getLast? hc)).2

/-! ## Bodies -/

theorem isBreak_path (h : HasParts u) : ∀ c ∈ u.path.text.toList, isBreak c = false := by
  cases h with
  | named hkind hfile ha hparts hne =>
    rw [text_segments]
    exact fun c hc => (chars_slashed (fun part hpart => (hparts part hpart).1) c hc).1
  | rooted hkind hparts hne =>
    rw [text_segments]
    exact fun c hc => (chars_slashed (fun part hpart => (hparts part hpart).1) c hc).1
  | bare hkind hhead hpath hkept hlast =>
    intro c hc
    exact isBreak_of_kept (hkept c (by simpa [Path.text] using hc))
  | file htext hchars hparts hhead =>
    rw [text_segments]
    exact fun c hc => (chars_slashed hparts c hc).1

/-- The path does not end with a space, unless something follows it. -/
theorem isTrimmed_path (h : HasParts u) (hquery : u.query = none) (hfragment : u.fragment = none) :
    ∀ c ∈ u.path.text.toList.getLast?, isTrimmed c = false := by
  cases h with
  | named hkind hfile ha hparts hne =>
    rw [text_segments]
    exact fun c hc => (chars_slashed (fun part hpart => (hparts part hpart).1) c
      (List.mem_of_getLast? hc)).2
  | rooted hkind hparts hne =>
    rw [text_segments]
    exact fun c hc => (chars_slashed (fun part hpart => (hparts part hpart).1) c
      (List.mem_of_getLast? hc)).2
  | bare hkind hhead hpath hkept hlast => simpa [Path.text] using hlast hquery hfragment
  | file htext hchars hparts hhead =>
    rw [text_segments]
    exact fun c hc => (chars_slashed hparts c (List.mem_of_getLast? hc)).2

theorem low_front (h : HasParts u) : ∀ c ∈ u.frontText.toList, 0x20 < c.toNat := by
  have hslashes : ∀ c ∈ "//".toList, 0x20 < c.toNat := List.all_iff_forall_prop.mp (by decide)
  cases h with
  | named hkind hfile ha hparts hne =>
    show ∀ c ∈ ("//" ++ _).toList, _
    rw [String.toList_append]
    exact List.forall_mem_append.mpr ⟨hslashes, fun c hc => (ha.chars c hc).1⟩
  | rooted hkind hparts hne =>
    unfold frontText
    dsimp only
    split <;> exact List.all_iff_forall_prop.mp (by decide)
  | bare hkind hhead hpath hkept hlast => simp [frontText, Path.startsDoubleSlash]
  | file htext hchars hparts hhead =>
    show ∀ c ∈ ("//" ++ _).toList, _
    rw [String.toList_append]
    refine List.forall_mem_append.mpr ⟨hslashes, fun c hc => (hchars c ?_).1⟩
    simpa [Authority.text] using hc

theorem isBreak_body (h : Settled u) : ∀ c ∈ u.bodyText, isBreak c = false := by
  refine List.forall_mem_append.mpr ⟨fun c hc => ?_,
    List.forall_mem_append.mpr ⟨isBreak_path h.parts, h.tail⟩⟩
  exact isBreak_of_le (low_front h.parts c hc).le

/-- What is read when a path is appended. -/
theorem append_eq (h : Settled u) (hsteps : AreSteps steps) (hpath : path.toList = slashed steps) :
    u.append path = readBody u.scheme (chopped u.bodyText ++ slashed steps) := by
  have hbreak : ∀ c ∈ chopped u.bodyText ++ slashed steps, isBreak c = false :=
    List.forall_mem_append.mpr ⟨fun c hc =>
      isBreak_body h c ((List.rdropWhile_prefix _ _).mem hc), fun c hc => (hsteps.chars c hc).1⟩
  rw [append, appendText_eq, hpath,
    parse_eq_readBody h.scheme hbreak (hsteps.getLast? _), String.ofList_toList]

/-- Whether a URL is what its own text stands for. -/
def ReadsBack (u : Url) : Prop := parse u.text = .ok u

theorem bodyText_of_none (hquery : u.query = none) (hfragment : u.fragment = none) :
    u.bodyText = u.frontText.toList ++ u.path.text.toList := by
  simp [bodyText, tailText, hquery, hfragment]

theorem readsBack_iff (h : Settled u) (hquery : u.query = none) (hfragment : u.fragment = none) :
    u.ReadsBack ↔ readBody u.scheme u.bodyText = .ok u := by
  have hlast : ∀ c ∈ u.bodyText.getLast?, isTrimmed c = false := by
    rw [bodyText_of_none hquery hfragment]
    intro c hc
    cases hpath : u.path.text.toList with
    | nil =>
      rw [hpath, List.append_nil] at hc
      have hlow := low_front h.parts c (List.mem_of_getLast? hc)
      simp only [isTrimmed, decide_eq_false_iff_not]
      omega
    | cons x xs =>
      rw [hpath, List.getLast?_append_of_ne_nil _ (List.cons_ne_nil x xs), ← hpath] at hc
      exact isTrimmed_path h.parts hquery hfragment c hc
  have hparse := parse_eq_readBody h.scheme (isBreak_body h) hlast
  rw [← text_eq, String.ofList_toList, String.ofList_toList] at hparse
  rw [ReadsBack, hparse]

/-! ## Behind a query or a fragment -/

theorem front_rooted (scheme : String) (path : Path) (query fragment : Option String) :
    (Url.mk scheme none path query fragment).frontText.toList = ['/', '.'] ∨
      (Url.mk scheme none path query fragment).frontText.toList = [] ∧
        path.startsDoubleSlash = false := by
  unfold frontText
  dsimp only
  split
  · exact .inl (by simp)
  · rename_i hdouble
    exact .inr ⟨by simp, by simpa using hdouble⟩

theorem front_named (scheme : String) (a : Authority) (path : Path) (query fragment : Option String)
    (cs : List Char) :
    (Url.mk scheme (some a) path query fragment).frontText.toList ++ cs =
      '/' :: '/' :: (a.text.toList ++ cs) := by
  simp [frontText]

theorem front_bare (scheme path : String) (query fragment : Option String) :
    (Url.mk scheme none (.bare path) query fragment).frontText.toList = [] := by
  simp [frontText, Path.startsDoubleSlash]

theorem text_host (host : Host) : (Authority.mk "" "" host none).text = host.text := by
  simp [Authority.text]

theorem ok_of_map {α β : Type} {x : Except Fault α} {f : α → β} {y : β} (h : x.map f = .ok y) :
    ∃ a, x = .ok a ∧ f a = y := by
  cases x with
  | error fault => cases h
  | ok a => exact ⟨a, rfl, Except.ok.inj h⟩

theorem readBody_file {host tail : List Char} {parts : List (List Char)}
    (hhost : ∀ c ∈ host, IsHostChar c) (hne : parts ≠ [])
    (hparts : ∀ part ∈ parts, IsSegment .file part) (htail : IsTail tail) :
    readBody "file" ('/' :: '/' :: (host ++ (slashed parts ++ tail))) =
      (readFile host (slashed parts)).map fun r => fileUrl r.1 r.2 tail := by
  have hkind : kindOf "file" = .file := by decide
  unfold readBody
  rw [hkind]
  exact parseFile_append hhost hne hparts htail

/-- The path of a URL does not depend on its query and fragment. -/
theorem exists_path_of_tail (h : HasParts u) : ∃ path, ∀ tail, IsTail tail → ∀ url,
    readBody u.scheme (u.frontText.toList ++ (u.path.text.toList ++ tail)) = .ok url →
      url.path = path := by
  cases h with
  | @named scheme kind a parts query fragment hkind hfile ha hparts hne =>
    refine ⟨pathOf kind (slashed parts), fun tail htail url hurl => ?_⟩
    rw [text_segments, front_named,
      readBody_named hkind hfile ha.toIsSettled (fun part hpart => (hparts part hpart).1) htail] at hurl
    obtain ⟨r, -, rfl⟩ := ok_of_map hurl
    rfl
  | @rooted scheme parts query fragment hkind hparts hne =>
    refine ⟨.segments (parts.map String.ofList), fun tail htail url hurl => ?_⟩
    rw [text_segments, readBody_segments hkind hne hparts htail (front_rooted _ _ _ _)] at hurl
    cases hurl
    rfl
  | @bare scheme path query fragment hkind hhead hpath hkept hlast =>
    refine ⟨.bare (String.ofList (percentEncode .controls path)), fun tail htail url hurl => ?_⟩
    have hhead' : (path ++ tail).head? ≠ some '/' := by
      cases path with
      | cons c path => exact hhead
      | nil =>
        intro hslash
        rcases htail '/' hslash with hc | hc <;> cases hc
    rw [front_bare, Path.text, String.toList_ofList, List.nil_append,
      readBody_bare hkind hhead' hpath htail] at hurl
    cases hurl
    rfl
  | @file host parts query fragment htext hchars hparts hhead =>
    have hread := fun tail (htail : IsTail tail) => readBody_file hchars hhead.ne_nil hparts htail
    cases hfile : readFile host.text.toList (slashed parts) with
    | error fault =>
      refine ⟨.bare "", fun tail htail url hurl => ?_⟩
      rw [text_segments, front_named, text_host, hread tail htail, hfile] at hurl
      cases hurl
    | ok r =>
      refine ⟨r.2.filePath, fun tail htail url hurl => ?_⟩
      rw [text_segments, front_named, text_host, hread tail htail, hfile] at hurl
      cases hurl
      rfl

theorem exists_tail (h : u.query ≠ none ∨ u.fragment ≠ none) :
    ∃ c tail, u.tailText.toList = c :: tail ∧ (c = '?' ∨ c = '#') := by
  cases hquery : u.query with
  | some q =>
    refine ⟨'?', q.toList ++ (u.fragment.elim "" ("#" ++ ·)).toList, ?_, .inl rfl⟩
    simp [tailText, hquery]
  | none =>
    cases hfragment : u.fragment with
    | some f => exact ⟨'#', f.toList, by simp [tailText, hquery, hfragment], .inr rfl⟩
    | none => simp [hquery, hfragment] at h

/-- Behind a query or a fragment every path leads to the same place. -/
theorem exists_path_of_append (h : Settled u) (htail : u.query ≠ none ∨ u.fragment ≠ none) :
    ∃ place, ∀ {steps path url}, AreSteps steps → path.toList = slashed steps →
      u.append path = .ok url → url.path = place := by
  obtain ⟨place, hplace⟩ := exists_path_of_tail h.parts
  obtain ⟨c, tail, hcons, hc⟩ := exists_tail htail
  refine ⟨place, fun {steps path url} hsteps hpath hurl => ?_⟩
  have hslash : c ≠ '/' := by rcases hc with rfl | rfl <;> decide
  have hchopped : chopped u.bodyText =
      u.frontText.toList ++ (u.path.text.toList ++ c :: chopped tail) := by
    have hkept : chopped (c :: tail) ≠ [] := by simp [chopped_cons hslash]
    rw [bodyText, hcons, ← List.append_assoc, ← List.append_assoc, ← chopped_cons hslash]
    exact rdropWhile_append_of_ne_nil hkept _
  rw [append_eq h hsteps hpath, hchopped, List.append_assoc, List.append_assoc] at hurl
  refine hplace _ ?_ url hurl
  rintro _ ⟨⟩
  exact hc

end FsGateway.Url
