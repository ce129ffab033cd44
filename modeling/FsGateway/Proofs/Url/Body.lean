import FsGateway.Proofs.Url.Scheme

/-!
# Bodies of URLs

The body of a URL is read part by part: an authority, the segments of a path, and what follows the
path. What follows the path plays no part in how the rest is read.

* `readBody_named`: a body with an authority.
* `readBody_rooted`, `readBody_bare`: a body without one.
* `parseFile_append`: the body of a URL of a file.
-/

namespace FsGateway.Url

variable {kind : Kind} {scheme : String} {tail path : List Char} {parts : List (List Char)}

/-! ## What follows a path -/

/-- A query, a fragment or nothing. -/
def IsTail (tail : List Char) : Prop := ∀ c ∈ tail.head?, c = '?' ∨ c = '#'

/-- A path without the characters that start a query or a fragment. -/
def IsPath (path : List Char) : Prop := ∀ c ∈ path, c ≠ '?' ∧ c ≠ '#'

theorem isTail_nil : IsTail [] := by simp [IsTail]

theorem IsTail.ends (h : IsTail tail) : Ends kind tail := by
  intro c hc
  rcases h c hc with rfl | rfl <;> cases kind <;> rfl

theorem isPath_slashed (h : ∀ part ∈ parts, IsSegment kind part) : IsPath (slashed parts) := by
  intro c hc
  obtain ⟨part, hpart, hc⟩ := List.mem_flatMap.mp hc
  rcases List.mem_cons.mp hc with rfl | hc
  · decide
  · have hkept := (h part hpart).kept c hc
    refine ⟨?_, ?_⟩ <;> rintro rfl <;> cases hkept

theorem ends_slashed (kind : Kind) (parts : List (List Char)) (h : IsTail tail) : Ends kind (slashed parts ++ tail) := by
  cases parts with
  | nil => exact h.ends
  | cons part parts =>
    rintro c ⟨⟩
    cases kind <;> rfl

theorem beforeQuery_append (hpath : IsPath path) (h : IsTail tail) :
    beforeQuery (path ++ tail) = path := by
  unfold beforeQuery
  rw [takeWhile_append]
  · exact List.takeWhile_eq_self_iff.mpr fun c hc => by simp [hpath c hc]
  · intro c hc
    rcases h c hc with rfl | rfl <;> rfl

theorem finish_append (scheme : String) (kind : Kind) (authority : Option Authority) (hpath : IsPath path) (h : IsTail tail) :
    finish scheme kind authority (path ++ tail) =
      ⟨scheme, authority, pathOf kind path, (queryAndFragment kind tail).1,
        (queryAndFragment kind tail).2⟩ := by
  unfold finish
  dsimp only
  rw [beforeQuery_append hpath h, List.drop_left]

/-! ## Bodies with an authority -/

theorem isSlash_of_isAuthorityChar (kind : Kind) {c : Char} (h : IsAuthorityChar c) :
    isSlash kind c = false := by
  have hmem := h.2
  simp only [List.mem_cons, List.not_mem_nil, or_false, not_or] at hmem
  simp [isSlash, hmem]

theorem readBody_named {a : Authority} (hkind : kindOf scheme = kind) (hfile : kind ≠ .file)
    (ha : a.IsSettled kind) (hparts : ∀ part ∈ parts, IsSegment kind part) (htail : IsTail tail) :
    readBody scheme ('/' :: '/' :: (a.text.toList ++ (slashed parts ++ tail))) =
      (takeAuthority scheme kind a.text.toList).map fun r =>
        ⟨scheme, some r.1, pathOf kind (slashed parts), (queryAndFragment kind tail).1,
          (queryAndFragment kind tail).2⟩ := by
  have hread := takeAuthority_text scheme ha (ends_slashed kind parts htail)
  have hfinish := fun authority : Authority =>
    finish_append scheme kind (some authority) (isPath_slashed hparts) htail
  unfold readBody
  rw [hkind]
  cases kind with
  | file => exact absurd rfl hfile
  | special =>
    have hslashes : ('/' :: '/' :: (a.text.toList ++ (slashed parts ++ tail))).dropWhile
        (isSlash .special) = a.text.toList ++ (slashed parts ++ tail) := by
      obtain ⟨c, cs, hcons⟩ := List.exists_cons_of_ne_nil
        (mt String.toList_eq_nil_iff.mp (ha.ne_empty (by decide)))
      have hc := isSlash_of_isAuthorityChar .special
        (ha.chars c (hcons ▸ List.mem_cons_self))
      rw [hcons]
      simp [hc, isSlash_slash]
    dsimp only
    rw [hslashes, hread]
    cases takeAuthority scheme .special a.text.toList with
    | error fault => rfl
    | ok r => exact congrArg Except.ok (hfinish r.1)
  | other =>
    change (takeAuthority scheme .other _ >>= fun r =>
      pure (finish scheme .other (some r.1) r.2)) = _
    rw [hread]
    cases takeAuthority scheme .other a.text.toList with
    | error fault => rfl
    | ok r => exact congrArg Except.ok (hfinish r.1)

/-! ## Bodies without an authority -/

theorem readBody_rooted {cs : List Char} (hkind : kindOf scheme = .other)
    (h : cs.head? ≠ some '/') :
    readBody scheme ('/' :: cs) = .ok (finish scheme .other none ('/' :: cs)) := by
  unfold readBody
  rw [hkind]
  cases cs with
  | nil => rfl
  | cons c cs =>
    dsimp only
    split
    · rename_i heq
      cases heq
      exact absurd rfl h
    · rfl
    · rename_i hnone
      exact absurd rfl (hnone (c :: cs))

/-- A dot segment at the start of a path does not count. -/
theorem pathOf_dot (hne : parts ≠ []) (h : ∀ part ∈ parts, IsSegment .other part ∧ NoDots part) :
    pathOf .other ('/' :: '.' :: slashed parts) = .segments (parts.map String.ofList) := by
  obtain ⟨part, more, rfl⟩ := List.exists_cons_of_ne_nil hne
  have hdot : IsSegment .other ['.'] := 
    ⟨List.all_iff_forall_prop.mp (by decide), List.all_iff_forall_prop.mp (by decide)⟩
  have hsplit := splitAt_slashed hdot fun p hp => (h p hp).1
  have hwalk : walk .other ('.' :: slashed (part :: more)) = ⟨part :: more, false⟩ := by
    rw [walk]
    change Walk.pushAll .other _ (splitAt _ (['.'] ++ slashed (part :: more))) = _
    rw [hsplit, Walk.pushAll_cons]
    exact Walk.pushAll_of_noDots h (by simp [Walk.IsOutermost])
  have hdrop : dropSlash? .other ('/' :: '.' :: slashed (part :: more)) =
      some ('.' :: slashed (part :: more)) := rfl
  rw [pathOf, hdrop, Option.getD_some, hwalk]
  rfl

theorem startsDoubleSlash_segments (parts : List (List Char)) :
    (Path.segments (parts.map String.ofList)).startsDoubleSlash = true ↔
      ∃ next more, parts = [] :: next :: more := by
  match parts with
  | [] => simp [Path.startsDoubleSlash]
  | [part] => simp [Path.startsDoubleSlash]
  | [] :: next :: more => simp [Path.startsDoubleSlash]
  | (c :: part) :: next :: more => simp [Path.startsDoubleSlash]

/-- The segments of a path are read if no two slashes stand at the start. -/
theorem readBody_segments {front : List Char} (hkind : kindOf scheme = .other) (hne : parts ≠ [])
    (h : ∀ part ∈ parts, IsSegment .other part ∧ NoDots part) (htail : IsTail tail)
    (hfront : front = ['/', '.'] ∨
      front = [] ∧ (Path.segments (parts.map String.ofList)).startsDoubleSlash = false) :
    readBody scheme (front ++ (slashed parts ++ tail)) =
      .ok ⟨scheme, none, .segments (parts.map String.ofList), (queryAndFragment .other tail).1,
        (queryAndFragment .other tail).2⟩ := by
  have hpath : IsPath (slashed parts) := isPath_slashed fun part hpart => (h part hpart).1
  rcases hfront with rfl | ⟨rfl, hdouble⟩
  · have hwhole : IsPath ('/' :: '.' :: slashed parts) :=
      List.forall_mem_cons.mpr ⟨by decide, List.forall_mem_cons.mpr ⟨by decide, hpath⟩⟩
    have hfinish := finish_append scheme .other none hwhole htail
    rw [pathOf_dot hne h] at hfinish
    exact (readBody_rooted hkind (by simp)).trans (congrArg Except.ok hfinish)
  · have hfinish := finish_append scheme .other none hpath htail
    rw [pathOf_slashed (by decide) hne h] at hfinish
    obtain ⟨part, more, rfl⟩ := List.exists_cons_of_ne_nil hne
    have hhead : (part ++ (slashed more ++ tail)).head? ≠ some '/' := by
      intro hslash
      cases part with
      | cons c part =>
        have hc := (h _ List.mem_cons_self).1.slash_notMem
        cases hslash
        exact hc List.mem_cons_self
      | nil =>
        cases more with
        | cons next more =>
          rw [← Bool.not_eq_true, startsDoubleSlash_segments] at hdouble
          exact hdouble ⟨next, more, rfl⟩
        | nil => rcases htail '/' hslash with hc | hc <;> cases hc
    have hbody : slashed (part :: more) ++ tail = '/' :: (part ++ (slashed more ++ tail)) := by
      simp [slashed_cons]
    rw [hbody] at hfinish
    rw [List.nil_append, hbody, readBody_rooted hkind hhead, hfinish]

theorem readBody_bare (hkind : kindOf scheme = .other) (hhead : (path ++ tail).head? ≠ some '/')
    (hpath : IsPath path) (htail : IsTail tail) :
    readBody scheme (path ++ tail) =
      .ok ⟨scheme, none, .bare (String.ofList (percentEncode .controls path)),
        (queryAndFragment .other tail).1, (queryAndFragment .other tail).2⟩ := by
  unfold readBody
  rw [hkind]
  dsimp only
  split
  · rename_i heq
    rw [heq] at hhead
    exact absurd rfl hhead
  · rename_i heq
    rw [heq] at hhead
    exact absurd rfl hhead
  · rw [beforeQuery_append hpath htail, List.drop_left]

/-! ## Files -/

/-- The host of a file and its path, from the text of the host and of the path. The letter of a drive
is no host. -/
def readFile (host path : List Char) : Except Fault (Host × Walk) :=
  if isDriveLetter host then .ok (.name "", walk .file (host ++ path))
  else if host.isEmpty then .ok (.name "", walk .file path)
  else (Host.parse host).map fun h =>
    if h = .name "localhost" then (.name "", walk .file path) else (h, walk .file (path.drop 1))

/-- The URL of a file. -/
def fileUrl (host : Host) (w : Walk) (tail : List Char) : Url :=
  ⟨"file", some ⟨"", "", if w.onDrive then .name "" else host, none⟩, w.filePath,
    (queryAndFragment .file (unbroken tail)).1, (queryAndFragment .file (unbroken tail)).2⟩

theorem finishFile_append (host : Host) (hpath : IsPath path) (h : IsTail tail) :
    finishFile host (path ++ tail) = fileUrl host (walk .file path) tail := by
  unfold finishFile
  dsimp only
  rw [beforeQuery_append hpath h, List.drop_left]
  rfl

theorem dropSlash?_slash (kind : Kind) (cs : List Char) : dropSlash? kind ('/' :: cs) = some cs := by
  cases kind <;> rfl

theorem parseFile_append {host : List Char} (hhost : ∀ c ∈ host, IsHostChar c)
    (hne : parts ≠ []) (hparts : ∀ part ∈ parts, IsSegment .file part) (htail : IsTail tail) :
    parseFile ('/' :: '/' :: (host ++ (slashed parts ++ tail))) =
      (readFile host (slashed parts)).map fun r => fileUrl r.1 r.2 tail := by
  have hfront : (host ++ (slashed parts ++ tail)).takeWhile (fun c => !endsAuthority .file c) =
      host := by
    rw [takeWhile_append fun c hc => by simp [ends_slashed .file parts htail c hc]]
    refine List.takeWhile_eq_self_iff.mpr fun c hc => ?_
    have hcontinues := continues_of_isAuthorityChar .file
      (fun c hc => (hhost c hc).isAuthorityChar) c hc
    simp [hcontinues]
  have hunbroken : unbroken host = host :=
    unbroken_of_forall fun c hc => isBreak_of_le (hhost c hc).1.le
  have hpath := isPath_slashed hparts
  have hwhole : IsPath (host ++ slashed parts) := by
    refine List.forall_mem_append.mpr ⟨fun c hc => ?_, hpath⟩
    have hmem := (hhost c hc).2
    refine ⟨?_, ?_⟩ <;> rintro rfl <;> exact hmem (by decide)
  obtain ⟨part, more, rfl⟩ := List.exists_cons_of_ne_nil hne
  unfold parseFile readFile
  rw [dropSlash?_slash]
  dsimp only
  rw [dropSlash?_slash]
  dsimp only
  rw [hfront, List.drop_left, hunbroken]
  split
  · rw [← List.append_assoc, finishFile_append _ hwhole htail]
    rfl
  · split
    · rw [finishFile_append _ hpath htail]
      rfl
    · cases Host.parse host with
      | error fault => rfl
      | ok h =>
        dsimp only [Except.map]
        split
        · rw [finishFile_append _ hpath htail]
        · rw [slashed_cons, List.cons_append, List.cons_append, dropSlash?_slash, Option.getD_some,
            finishFile_append _ (fun c hc => hpath c ?_) htail]
          · rfl
          · rw [slashed_cons, List.cons_append]
            exact List.mem_cons_of_mem _ hc

end FsGateway.Url
