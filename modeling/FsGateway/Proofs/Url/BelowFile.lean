import FsGateway.Proofs.Url.Below

/-!
# Below the URL of a file

The URL of a file has an authority without writing it, and the letter of a drive at the start of its
path takes the place of a host.

* `readsBack_ofFile_iff`: when the URL of a file is read from its own text.
* `leadsBelow_file`: a path leads below the URL of a file exactly then.
* `leadsBelow_iff`: which paths lead below any URL.
-/

namespace FsGateway.Url

variable {u : Url} {path : String} {steps parts : List (List Char)}

/-! ## Files -/

/-- Whether the URL of a file is read from its own text: its path has no steps, and if it has a host
then the host is read again and the letter of a drive does not take its place. -/
structure ReadsFile (host : Host) (parts : List (List Char)) : Prop where
  noDots : ∀ part ∈ parts, NoDots part
  host : host.text ≠ "" → isDriveLetter host.text.toList = false ∧
    Host.parse host.text.toList = .ok host ∧ host ≠ .name "localhost" ∧
      ∀ part ∈ parts.head?, isDriveLetter part = false

/-- The URL of a file. -/
def ofFile (host : Host) (parts : List (List Char)) : Url :=
  ⟨"file", some ⟨"", "", host, none⟩, .segments (parts.map String.ofList), none, none⟩

theorem readFile_of_readsFile {host : Host} (htext : host.text = "" → host = .name "")
    (hparts : ∀ part ∈ parts, IsSegment .file part) (hhead : IsFilePath parts)
    (h : ReadsFile host parts) :
    ∃ w, readFile host.text.toList (slashed parts) = .ok (host, w) ∧ w.onDrive = false ∧
      w.fileParts = parts := by
  have hsettled : ∀ part ∈ parts, IsSegment .file part ∧ NoDots part :=
    fun part hpart => ⟨hparts part hpart, h.noDots part hpart⟩
  by_cases hempty : host.text = ""
  · have hwalk : walk .file ([] ++ slashed parts) = ⟨[] :: parts, false⟩ :=
      walk_slashed (List.forall_mem_cons.mpr ⟨⟨isSegment_nil .file, noDots_nil⟩, hsettled⟩)
        fun _ => rfl
    refine ⟨⟨[] :: parts, false⟩, ?_, rfl, (hhead.fileParts false).2⟩
    rw [hempty, htext hempty]
    exact congrArg (fun w => Except.ok (Host.name "", w)) hwalk
  · obtain ⟨hdrive, hhost, hlocal, hletter⟩ := h.host hempty
    obtain ⟨part, more, rfl⟩ := List.exists_cons_of_ne_nil hhead.ne_nil
    refine ⟨⟨part :: more, false⟩, ?_, rfl, (hhead.fileParts false).1⟩
    have hwalk := walk_slashed hsettled fun _ => hletter part rfl
    have hne : host.text.toList.isEmpty ≠ true := by simpa using hempty
    unfold readFile
    rw [hdrive, if_neg (by simp), if_neg hne, hhost]
    exact congrArg Except.ok ((if_neg hlocal).trans (congrArg (host, ·) hwalk))

theorem readsFile_of_readFile {host : Host} {r : Host × Walk}
    (htext : host.text = "" → host = .name "")
    (hparts : ∀ part ∈ parts, IsSegment .file part) (hhead : IsFilePath parts)
    (h : readFile host.text.toList (slashed parts) = .ok r)
    (hhost : (if r.2.onDrive then .name "" else r.1) = host) (hpath : r.2.fileParts = parts) :
    ReadsFile host parts := by
  by_cases hempty : host.text = ""
  · have hwalk : walk .file ([] ++ slashed parts) = Walk.pushAll .file ⟨[[]], false⟩ parts := by
      obtain ⟨part, more, rfl⟩ := List.exists_cons_of_ne_nil hhead.ne_nil
      rw [walk, splitAt_slashed (isSegment_nil .file) hparts, Walk.pushAll_cons]
      rfl
    rw [hempty] at h
    cases h
    rw [← List.nil_append (slashed parts), hwalk] at hpath
    exact ⟨Walk.noDots_of_fileParts rfl hparts hpath, fun hne => absurd hempty hne⟩
  · have hnotEmpty : host ≠ .name "" := by
      rintro rfl
      exact hempty rfl
    have hsome : ∀ w : Walk, r ≠ (.name "", w) := by
      rintro w rfl
      exact hnotEmpty ((ite_self _).symm.trans hhost).symm
    unfold readFile at h
    split at h
    · exact absurd (Except.ok.inj h).symm (hsome _)
    · rename_i hdrive
      split at h
      · exact absurd (Except.ok.inj h).symm (hsome _)
      · obtain ⟨parsed, hparse, hr⟩ := ok_of_map h
        split at hr
        · exact absurd hr.symm (hsome _)
        · rename_i hlocal
          obtain ⟨part, more, rfl⟩ := List.exists_cons_of_ne_nil hhead.ne_nil
          subst hr
          have honDrive : (walk .file (part ++ slashed more)).onDrive = false := by
            rw [← Bool.not_eq_true]
            intro htrue
            exact hnotEmpty ((if_pos htrue).symm.trans hhost).symm
          have hparsed : parsed = host := by
            refine (if_neg ?_).symm.trans hhost
            exact ne_true_of_eq_false honDrive
          have hwalk : walk .file (part ++ slashed more) =
              Walk.pushAll .file ⟨[], false⟩ (part :: more) := by
            rw [walk, splitAt_slashed (hparts part List.mem_cons_self)
              fun p hp => hparts p (List.mem_cons_of_mem part hp)]
          refine ⟨?_, fun _ => ⟨by simpa using hdrive, hparsed ▸ hparse, hparsed ▸ hlocal, ?_⟩⟩
          · exact Walk.noDots_of_fileParts (w := ⟨[], false⟩) rfl hparts (hwalk ▸ hpath)
          · rintro _ ⟨⟩
            rw [← Bool.not_eq_true]
            intro hletter
            rw [onDrive_walk hletter hparts] at honDrive
            cases honDrive

theorem fileParts_of_readFile {host path : List Char} {r : Host × Walk}
    (h : readFile host path = .ok r) : ∀ part ∈ r.2.fileParts, IsSegment .file part := by
  have hwalk : ∃ cs, r.2 = walk .file cs := by
    unfold readFile at h
    split at h
    · cases h
      exact ⟨_, rfl⟩
    · split at h
      · cases h
        exact ⟨_, rfl⟩
      · obtain ⟨parsed, -, rfl⟩ := ok_of_map h
        split
        · exact ⟨_, rfl⟩
        · exact ⟨_, rfl⟩
  obtain ⟨cs, hcs⟩ := hwalk
  rw [hcs]
  exact (walk_parts .file cs).1.fileParts

/-- The URL of a file is read from its text. -/
theorem exists_fileUrl_iff {host : Host} (htext : host.text = "" → host = .name "")
    (hparts : ∀ part ∈ parts, IsSegment .file part) (hhead : IsFilePath parts) :
    (∃ url, (readFile host.text.toList (slashed parts)).map (fun r => fileUrl r.1 r.2 []) = .ok url ∧
      url.authority = some ⟨"", "", host, none⟩ ∧ url.path.text.toList = slashed parts) ↔
        ReadsFile host parts := by
  refine ⟨?_, fun h => ?_⟩
  · rintro ⟨url, hurl, hauthority, hpath⟩
    obtain ⟨r, hr, rfl⟩ := ok_of_map hurl
    refine readsFile_of_readFile htext hparts hhead hr ?_ ?_
    · exact congrArg Authority.host (Option.some.inj hauthority)
    · refine slashed_injective (fileParts_of_readFile hr) hparts ?_
      rw [← hpath, ← text_segments, ← Walk.filePath_eq]
      rfl
  · obtain ⟨w, hw, hdrive, hfile⟩ := readFile_of_readsFile htext hparts hhead h
    refine ⟨_, congrArg (Except.map _) hw, ?_, ?_⟩
    · show some (Authority.mk "" "" (if w.onDrive then .name "" else host) none) = _
      rw [hdrive]
      rfl
    · rw [← text_segments, ← hfile, ← Walk.filePath_eq]
      rfl

theorem mem_trimmed_or {part : List Char} (h : part ∈ parts) : part ∈ trimmed parts ∨ part = [] := by
  rw [← List.rdropWhile_append_rtakeWhile (p := fun part => decide (part = [])) (l := parts)] at h
  refine (List.mem_append.mp h).imp_right fun hback => ?_
  simpa using List.mem_rtakeWhile_imp hback

/-- The segment that the path of a file starts with stays, or it is all there is. -/
theorem IsFilePath.head_trimmed (h : IsFilePath parts) :
    parts = [[]] ∨ ∃ part kept rest, part ≠ [] ∧ trimmed parts = part :: kept ∧ parts = part :: rest := by
  refine h.imp_right fun ⟨part, hpart, hne⟩ => ?_
  obtain ⟨rest, rfl⟩ := List.head?_eq_some_iff.mp hpart
  obtain ⟨back, hback⟩ := List.rdropWhile_prefix (fun part => decide (part = [])) (part :: rest)
  change trimmed (part :: rest) ++ back = part :: rest at hback
  cases htrimmed : trimmed (part :: rest) with
  | nil =>
    have hmem := (mem_trimmed_or (show part ∈ part :: rest from List.mem_cons_self)).resolve_right
      hne
    rw [htrimmed] at hmem
    cases hmem
  | cons next kept =>
    rw [htrimmed] at hback
    injection hback with hnext _
    subst hnext
    exact ⟨next, kept, rest, hne, rfl, rfl⟩

theorem readsFile_extended_iff {host : Host} (hhead : IsFilePath parts) (hsteps : AreSteps steps) :
    ReadsFile host (trimmed parts ++ steps) ↔ ReadsFile host parts := by
  have hdots : (∀ part ∈ trimmed parts ++ steps, NoDots part) ↔ ∀ part ∈ parts, NoDots part := by
    refine ⟨fun h part hpart => ?_, fun h => ?_⟩
    · rcases mem_trimmed_or hpart with hmem | rfl
      · exact h part (List.mem_append_left _ hmem)
      · exact noDots_nil
    · exact List.forall_mem_append.mpr ⟨fun part hpart => h part (mem_of_mem_trimmed hpart),
        fun step hstep => (hsteps.segment .file step hstep).2⟩
  have hletter : (∀ part ∈ (trimmed parts ++ steps).head?, isDriveLetter part = false) ↔
      ∀ part ∈ parts.head?, isDriveLetter part = false := by
    rcases hhead.head_trimmed with rfl | ⟨part, kept, rest, -, htrimmed, rfl⟩
    · refine iff_of_true (fun step hstep => hsteps.noDrive step ?_) ?_
      · exact List.mem_of_mem_head? hstep
      · rintro _ ⟨⟩
        rfl
    · rw [htrimmed]
      rfl
  refine ⟨fun h => ⟨hdots.mp h.noDots, fun hne => ?_⟩, fun h => ⟨hdots.mpr h.noDots, fun hne => ?_⟩⟩
  · obtain ⟨hdrive, hhost, hlocal, hfirst⟩ := h.host hne
    exact ⟨hdrive, hhost, hlocal, hletter.mp hfirst⟩
  · obtain ⟨hdrive, hhost, hlocal, hfirst⟩ := h.host hne
    exact ⟨hdrive, hhost, hlocal, hletter.mpr hfirst⟩

theorem isFilePath_extended (hhead : IsFilePath parts) (hsteps : AreSteps steps) :
    IsFilePath (trimmed parts ++ steps) := by
  rcases hhead.head_trimmed with rfl | ⟨part, kept, rest, hne, htrimmed, rfl⟩
  · obtain ⟨step, more, rfl⟩ := List.exists_cons_of_ne_nil hsteps.ne_nil
    exact .inr ⟨step, rfl, hsteps.ne_empty step List.mem_cons_self⟩
  · rw [htrimmed]
    exact .inr ⟨part, rfl, hne⟩

theorem fileUrl_eq {host : Host} {r : Host × Walk} {front : List Char}
    (hr : readFile host.text.toList front = .ok r) (hparts : ∀ part ∈ parts, IsSegment .file part)
    (hauthority : (fileUrl r.1 r.2 []).authority = some ⟨"", "", host, none⟩)
    (hpath : (fileUrl r.1 r.2 []).path.text.toList = slashed parts) :
    fileUrl r.1 r.2 [] = ofFile host parts := by
  have hfile : r.2.fileParts = parts := by
    refine slashed_injective (fileParts_of_readFile hr) hparts ?_
    rw [← hpath, ← text_segments, ← Walk.filePath_eq]
    rfl
  rw [ofFile, ← hauthority, ← hfile, ← Walk.filePath_eq]
  rfl

theorem readsBack_ofFile_iff {host : Host} (h : Settled (ofFile host parts))
    (htext : host.text = "" → host = .name "") (hchars : ∀ c ∈ host.text.toList, IsHostChar c)
    (hparts : ∀ part ∈ parts, IsSegment .file part) (hhead : IsFilePath parts) :
    ReadsBack (ofFile host parts) ↔ ReadsFile host parts := by
  have hread : readBody "file" (ofFile host parts).bodyText =
      (readFile host.text.toList (slashed parts)).map fun r => fileUrl r.1 r.2 [] := by
    rw [← readBody_file hchars hhead.ne_nil hparts isTail_nil, bodyText_of_none rfl rfl, ofFile,
      front_named, text_host, text_segments, List.append_nil]
  rw [readsBack_iff h rfl rfl, ← exists_fileUrl_iff htext hparts hhead]
  show readBody "file" _ = _ ↔ _
  rw [hread]
  refine ⟨fun hself => ⟨_, hself, rfl, text_segments parts⟩, ?_⟩
  rintro ⟨url, hurl, hauthority, hpath⟩
  obtain ⟨r, hr, rfl⟩ := ok_of_map hurl
  rw [hurl, fileUrl_eq hr hparts hauthority hpath]

/-- Without an authority, steps make up the path of a file. -/
theorem readBody_file_steps (hsteps : AreSteps steps) :
    readBody "file" (slashed steps) = .ok (ofFile (.name "") steps) := by
  obtain ⟨step, more, rfl⟩ := List.exists_cons_of_ne_nil hsteps.ne_nil
  have hsegments := fun step hstep => (hsteps.segment .file step hstep).1
  have hwalk := walk_slashed (hsteps.segment .file)
    fun _ => hsteps.noDrive step List.mem_cons_self
  have hfile : IsFilePath (step :: more) :=
    .inr ⟨step, rfl, hsteps.ne_empty step List.mem_cons_self⟩
  have hdrop : dropSlash? .file (step ++ slashed more) = none := by
    cases step with
    | nil => exact absurd rfl (hsteps.ne_empty [] List.mem_cons_self)
    | cons c step =>
      have hc := hsegments _ List.mem_cons_self
      unfold dropSlash?
      rw [List.cons_append, List.dropWhile_cons_of_neg (by simp [hc.isBreak c List.mem_cons_self])]
      exact if_neg (by simp [hc.noSlash c List.mem_cons_self])
  have hpath : IsPath (step ++ slashed more) := by
    intro c hc
    refine isPath_slashed hsegments c ?_
    rw [slashed_cons, List.cons_append]
    exact List.mem_cons_of_mem _ hc
  have hfinish := finishFile_append (.name "") hpath isTail_nil
  have hkind : kindOf "file" = .file := by decide
  unfold readBody parseFile
  rw [hkind, slashed_cons, List.cons_append, dropSlash?_slash]
  dsimp only
  rw [hdrop]
  dsimp only
  rw [← List.append_nil (step ++ slashed more), hfinish, hwalk, fileUrl, Walk.filePath_eq,
    (hfile.fileParts false).1]
  rfl

theorem leadsBelow_file {host : Host} (h : Settled (ofFile host parts))
    (htext : host.text = "" → host = .name "") (hchars : ∀ c ∈ host.text.toList, IsHostChar c)
    (hparts : ∀ part ∈ parts, IsSegment .file part) (hhead : IsFilePath parts)
    (hsteps : AreSteps steps) (hpath : path.toList = slashed steps) :
    LeadsBelow (ofFile host parts) path ↔ ReadsBack (ofFile host parts) := by
  have hbody : (ofFile host parts).bodyText = '/' :: '/' :: (host.text.toList ++ slashed parts) := by
    rw [bodyText_of_none rfl rfl, ofFile, front_named, text_host, text_segments]
  have happend := append_eq h hsteps hpath
  rw [readsBack_ofFile_iff h htext hchars hparts hhead]
  by_cases hends : host.text.toList = [] ∧ trimmed parts = []
  · obtain ⟨hempty, htrimmed⟩ := hends
    have hname := htext (String.toList_eq_nil_iff.mp hempty)
    rcases hhead.head_trimmed with rfl | ⟨part, kept, rest, -, hkept, -⟩
    · subst hname
      have hchopped : chopped (ofFile (.name "") [[]]).bodyText = [] := by
        rw [hbody]
        rfl
      rw [hchopped, List.nil_append] at happend
      refine iff_of_true ⟨ofFile (.name "") steps, happend.trans (readBody_file_steps hsteps), rfl, rfl,
        rfl, ?_⟩ ⟨by simpa using noDots_nil, fun hne => absurd rfl hne⟩
      rw [ofFile, text_segments, hpath]
      rfl
    · rw [htrimmed] at hkept
      cases hkept
  · have hextended : ∀ part ∈ trimmed parts ++ steps, IsSegment .file part :=
      List.forall_mem_append.mpr ⟨fun part hpart => hparts part (mem_of_mem_trimmed hpart),
        fun step hstep => (hsteps.segment .file step hstep).1⟩
    have hhead' := isFilePath_extended hhead hsteps
    have hread := readBody_file hchars hhead'.ne_nil hextended isTail_nil
    have hchopped : chopped (ofFile host parts).bodyText =
        '/' :: '/' :: (host.text.toList ++ slashed (trimmed parts)) := by
      rw [hbody]
      exact chopped_named (fun hslash => (hchars '/' hslash).2 (by decide)) hparts hends
    rw [List.append_nil, slashed_append, ← List.append_assoc, ← slashed_append] at hread
    rw [hchopped, List.cons_append, List.cons_append] at happend
    rw [← readsFile_extended_iff hhead hsteps, ← exists_fileUrl_iff htext hextended hhead',
      LeadsBelow, happend]
    show (∃ url, readBody "file" _ = _ ∧ _) ↔ _
    rw [hread]
    have htextBelow := text_extended hpath hparts
    rw [text_segments] at htextBelow
    refine exists_congr fun url => and_congr_right fun hurl => ?_
    obtain ⟨r, -, rfl⟩ := ok_of_map hurl
    constructor
    · intro hbelow
      exact ⟨hbelow.authority, hbelow.path.trans htextBelow.symm⟩
    · rintro ⟨hauthority, htext⟩
      exact ⟨rfl, hauthority, rfl, htext.trans htextBelow⟩

/-! ## All URLs -/

/-- A path leads below a URL without a query and a fragment if the URL is read from its own text and
has an authority that does not get lost. -/
theorem leadsBelow_iff (h : Settled u) (hquery : u.query = none) (hfragment : u.fragment = none)
    (hsteps : AreSteps steps) (hpath : path.toList = slashed steps) :
    u.LeadsBelow path ↔ u.ReadsBack ∧ ¬u.EndsInSlashes := by
  cases h.parts with
  | named hkind hfile ha hparts hne =>
    subst hquery hfragment
    exact leadsBelow_named h hkind hfile ha.toIsSettled hparts hne hsteps hpath
  | rooted hkind hparts hne =>
    subst hquery hfragment
    have hbelow := leadsBelow_rooted h hkind hparts hsteps hpath
    have hback := readsBack_rooted h hkind hne hparts
    exact iff_of_true hbelow ⟨hback, not_endsInSlashes_of_none rfl⟩
  | bare hkind hhead hbare hkept hlast =>
    subst hquery hfragment
    have hbelow := leadsBelow_bare h hkind hhead hbare hkept hsteps hpath
    have hback := readsBack_bare h hkind hhead hbare hkept
    exact iff_of_true hbelow ⟨hback, not_endsInSlashes_of_none rfl⟩
  | file htext hchars hparts hhead =>
    subst hquery hfragment
    have hkind : kindOf "file" ≠ .other := by decide
    refine (leadsBelow_file h htext hchars hparts hhead hsteps hpath).trans ?_
    exact (and_iff_left fun hends => hkind hends.1).symm

end FsGateway.Url
