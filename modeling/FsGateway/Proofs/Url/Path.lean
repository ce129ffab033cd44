import FsGateway.Proofs.Url.Percent
import Mathlib.Data.List.DropRight

/-!
# Paths of URLs

The path of a URL is written as its segments with a slash before each. Segments without slashes that
are no dot segments are read again as they were, so a path can be extended in its text.

* `walk_parts`: what the segments of a path are that was read.
* `pathOf_slashed`, `walk_file_slashed`: a path is read from its text.
* `noDots_of_length`: dot segments are missing from what was read.
* `rdropWhile_slashed`: the text of a path without the slashes at its end.
-/

namespace FsGateway.Url

variable {kind : Kind} {part : List Char} {parts : List (List Char)} {c : Char} {cs : List Char}

/-! ## The text of segments -/

/-- Segments with a slash before each. -/
def slashed (parts : List (List Char)) : List Char := parts.flatMap ('/' :: ·)

theorem slashed_append (parts more : List (List Char)) :
    slashed (parts ++ more) = slashed parts ++ slashed more := List.flatMap_append

theorem slashed_cons (part : List Char) (parts : List (List Char)) :
    slashed (part :: parts) = '/' :: part ++ slashed parts := List.flatMap_cons

theorem text_segments (parts : List (List Char)) :
    (Path.segments (parts.map String.ofList)).text.toList = slashed parts := by
  simp [Path.text, slashed, String.toList_join, List.flatMap_map]

/-- The slashes at the end stand before segments that are empty. -/
theorem rdropWhile_slashed (h : ∀ part ∈ parts, '/' ∉ part) :
    (slashed parts).rdropWhile (· = '/') = slashed (parts.rdropWhile (· = [])) := by
  induction parts using List.reverseRecOn with
  | nil => rfl
  | append_singleton parts part ih =>
    have hinit := ih fun p hp => h p (List.mem_append_left [part] hp)
    have hsingle : slashed [part] = '/' :: part := List.append_nil _
    rw [slashed_append, hsingle]
    by_cases hpart : part = []
    · subst hpart
      rw [List.rdropWhile_concat_pos _ parts _ (by simp), ← hinit]
      exact List.rdropWhile_concat_pos _ _ _ (by simp)
    · rw [List.rdropWhile_concat_neg _ _ _ (by simpa using hpart), slashed_append, hsingle]
      refine List.rdropWhile_eq_self_iff.mpr fun hne hlast => h part (by simp) ?_
      rw [List.getLast_append_of_ne_nil hne (List.cons_ne_nil _ _), List.getLast_cons hpart] at hlast
      rw [← of_decide_eq_true hlast]
      exact List.getLast_mem hpart

/-! ## Segments -/

/-- A segment that needs no encoding and has no slashes. -/
structure IsSegment (kind : Kind) (part : List Char) : Prop where
  kept : ∀ c ∈ part, EncodeSet.path.contains c = false
  noSlash : ∀ c ∈ part, isSlash kind c = false

/-- A segment that does not stand for a step in the tree. -/
def NoDots (part : List Char) : Prop := dots part ≠ ['.'] ∧ dots part ≠ ['.', '.']

theorem isSegment_nil (kind : Kind) : IsSegment kind [] := ⟨by simp, by simp⟩

theorem noDots_nil : NoDots [] := ⟨by decide, by decide⟩

theorem isBreak_of_le (h : 0x20 ≤ c.toNat) : isBreak c = false := by
  rw [← Bool.not_eq_true]
  intro hbreak
  simp only [isBreak, Bool.or_eq_true, decide_eq_true_eq] at hbreak
  rcases hbreak with (rfl | rfl) | rfl <;> revert h <;> decide

theorem isBreak_of_kept {set : EncodeSet} (h : set.contains c = false) : isBreak c = false :=
  isBreak_of_le (printable_of_not_contains h).1

theorem unbroken_of_forall (h : ∀ c ∈ cs, isBreak c = false) : unbroken cs = cs := by
  refine List.filter_eq_self.mpr fun c hc => ?_
  rw [h c hc]
  rfl

theorem IsSegment.isBreak (h : IsSegment kind part) : ∀ c ∈ part, isBreak c = false :=
  fun c hc => isBreak_of_kept (h.kept c hc)

theorem IsSegment.slash_notMem (h : IsSegment kind part) : '/' ∉ part := by
  intro hslash
  have hfalse := h.noSlash '/' hslash
  cases kind <;> cases hfalse

theorem afterDots?_eq_none_iff : afterDots? parts part = none ↔ NoDots part := by
  unfold afterDots? NoDots
  by_cases htwo : dots part = ['.', '.']
  · simp [htwo]
  · by_cases hone : dots part = ['.'] <;> simp [htwo, hone]

/-- What a segment is encoded to has no slashes. -/
theorem isSegment_percentEncode (h : ∀ c ∈ part, isSlash kind c = false) :
    IsSegment kind (percentEncode .path part) := by
  have hdigit : ∀ n < 16, isSlash kind (upperHex n) = false := by cases kind <;> decide
  have hpercent : isSlash kind '%' = false := by cases kind <;> decide
  refine ⟨fun c hc => contains_of_mem_percentEncode hc, fun c hc => ?_⟩
  rcases mem_percentEncode hc with ⟨hpart, -⟩ | rfl | ⟨n, hn, rfl⟩
  · exact h c hpart
  · exact hpercent
  · exact hdigit n hn

theorem noDots_percentEncode (h : NoDots part) : NoDots (percentEncode .path part) := by
  have hdots := dots_percentEncode (show EncodeSet.path.contains '.' = false by decide) part
  refine ⟨fun hone => h.1 ?_, fun htwo => h.2 ?_⟩
  · exact eq_of_percentEncode_eq (hdots.symm.trans hone) (List.all_iff_forall_prop.mp (by decide))
  · exact eq_of_percentEncode_eq (hdots.symm.trans htwo) (List.all_iff_forall_prop.mp (by decide))

/-! ## Splitting -/

theorem splitAt_of_forall {p : Char → Bool} (h : ∀ c ∈ part, p c = false) :
    splitAt p part = [part] := by
  induction part with
  | nil => rfl
  | cons c part ih =>
    rw [splitAt, h c List.mem_cons_self, ih fun x hx => h x (List.mem_cons_of_mem c hx)]
    rfl

theorem splitAt_append {p : Char → Bool} {sep : Char} (hsep : p sep = true)
    (h : ∀ c ∈ part, p c = false) (rest : List Char) :
    splitAt p (part ++ sep :: rest) = part :: splitAt p rest := by
  induction part with
  | nil => rw [List.nil_append, splitAt, if_pos hsep]
  | cons c part ih =>
    rw [List.cons_append, splitAt, h c List.mem_cons_self,
      ih fun x hx => h x (List.mem_cons_of_mem c hx)]
    rfl

theorem isSlash_slash (kind : Kind) : isSlash kind '/' = true := by cases kind <;> rfl

/-- Segments are split at the slashes between them. -/
theorem splitAt_slashed (h : IsSegment kind part) (hparts : ∀ part ∈ parts, IsSegment kind part) :
    splitAt (isSlash kind) (part ++ slashed parts) = part :: parts := by
  induction parts generalizing part with
  | nil => rw [slashed, List.flatMap_nil, List.append_nil, splitAt_of_forall h.noSlash]
  | cons next parts ih =>
    rw [slashed_cons, List.cons_append, splitAt_append (isSlash_slash kind) h.noSlash,
      ih (hparts next List.mem_cons_self) fun p hp => hparts p (List.mem_cons_of_mem next hp)]

theorem mem_splitAt {p : Char → Bool} (h : part ∈ splitAt p cs) :
    ∀ c ∈ part, c ∈ cs ∧ p c = false := by
  induction cs generalizing part with
  | nil =>
    rw [splitAt, List.mem_singleton] at h
    simp [h]
  | cons x cs ih =>
    have hmore : ∀ next ∈ splitAt p cs, ∀ c ∈ next, c ∈ x :: cs ∧ p c = false :=
      fun next hnext c hc => ⟨List.mem_cons_of_mem x (ih hnext c hc).1, (ih hnext c hc).2⟩
    rw [splitAt] at h
    by_cases hx : p x = true
    · rw [if_pos hx] at h
      rcases List.mem_cons.mp h with rfl | h
      · simp
      · exact hmore part h
    · rw [if_neg hx] at h
      have hhead : x ∈ x :: cs ∧ p x = false := ⟨List.mem_cons_self, by simpa using hx⟩
      split at h
      · rename_i next parts hsplit
        rw [hsplit] at hmore
        rcases List.mem_cons.mp h with rfl | h
        · exact List.forall_mem_cons.mpr ⟨hhead, hmore next List.mem_cons_self⟩
        · exact hmore part (List.mem_cons_of_mem next h)
      · rw [List.mem_singleton.mp h]
        exact List.forall_mem_singleton.mpr hhead

theorem splitAt_ne_nil (p : Char → Bool) (cs : List Char) : splitAt p cs ≠ [] := by
  cases cs with
  | nil => simp [splitAt]
  | cons c cs =>
    rw [splitAt]
    split
    · simp
    · split <;> simp

/-! ## One more segment -/

theorem isSegment_drive (hc : isAlpha c = true) : IsSegment kind [c, ':'] := by
  have hcolon : EncodeSet.path.contains ':' = false ∧ isSlash kind ':' = false := by
    cases kind <;> decide
  have hletter : EncodeSet.path.contains c = false ∧ isSlash kind c = false := by
    have hall : ∀ n < 128, isAlpha (Char.ofNat n) = true →
        EncodeSet.path.contains (Char.ofNat n) = false ∧ isSlash kind (Char.ofNat n) = false := by
      cases kind <;> decide
    have hascii : c.toNat < 128 := by
      simp only [isAlpha, Bool.or_eq_true, Bool.and_eq_true, decide_eq_true_eq] at hc
      rcases hc with ⟨-, hz⟩ | ⟨-, hz⟩ <;> exact Nat.lt_of_le_of_lt hz (by decide)
    rw [← Char.ofNat_toNat c] at hc ⊢
    exact hall c.toNat hascii hc
  refine ⟨?_, ?_⟩ <;> simp [hcolon, hletter]

theorem cutDrive?_eq_some {drive rest : List Char} (h : cutDrive? part = some (drive, rest)) :
    ∃ c, isAlpha c = true ∧ drive = [c, ':'] ∧ ∀ x ∈ rest, x ∈ part := by
  unfold cutDrive? at h
  split at h
  · rename_i c tail hfirst
    split at h
    · rename_i rest' hcolon
      split at h
      · rename_i hdrive
        cases h
        refine ⟨c, hdrive.1, rfl, fun x hx => ?_⟩
        have htail : x ∈ tail := (List.dropWhile_suffix isBreak).mem
          (hcolon ▸ List.mem_cons_of_mem ':' (List.mem_filter.mp hx).1)
        exact (List.dropWhile_suffix isBreak).mem (hfirst ▸ List.mem_cons_of_mem c htail)
      · cases h
    · cases h
  · cases h

/-- A segment without line breaks is not cut behind the letter of a drive. -/
theorem cutDrive?_of_forall (h : ∀ c ∈ part, isBreak c = false) : cutDrive? part = none := by
  unfold cutDrive?
  split
  · rename_i c tail hfirst
    split
    · rename_i rest hcolon
      refine if_neg fun hcut => ?_
      cases rest with
      | nil => simp at hcut
      | cons x rest =>
        have htail : x ∈ tail := (List.dropWhile_suffix isBreak).mem (by simp [hcolon])
        have hpart := (List.dropWhile_suffix isBreak).mem (hfirst ▸ List.mem_cons_of_mem c htail)
        simp [h x hpart] at hcut
    · rfl
  · rfl

theorem afterDots?_eq_some {more : List (List Char)} (h : afterDots? parts part = some more) :
    more <+: parts := by
  unfold afterDots? at h
  split at h
  · cases h
    unfold climb
    split
    · exact List.prefix_rfl
    · exact List.dropLast_prefix parts
  · split at h
    · cases h
      exact List.prefix_rfl
    · cases h

theorem exists_of_isDriveLetter (h : isDriveLetter part = true) :
    ∃ c, isAlpha c = true ∧ part.take 1 = [c] := by
  match part, h with
  | [c, d], h => exact ⟨c, (Bool.and_eq_true_iff.mp h).1, rfl⟩

/-- Whether a walk is about to enter the outermost segment of a file. -/
def Walk.IsOutermost (kind : Kind) (w : Walk) : Prop := kind = .file ∧ w.parts = []

/-- What becomes of a walk with one more segment. -/
inductive Walk.Pushes (kind : Kind) (w : Walk) (segment : List Char) (isLast : Bool) : Walk → Prop
  /-- The letter of a drive is cut off at a line break. -/
  | cut {c : Char} {rest : List Char} : w.IsOutermost kind → isAlpha c = true →
      (∀ x ∈ rest, x ∈ segment) → cutDrive? segment = some ([c, ':'], rest) →
      Pushes kind w segment isLast { w with parts := [[c, ':'], percentEncode .path rest] }
  | dots {parts : List (List Char)} : ¬NoDots (unbroken segment) → parts <+: w.parts →
      Pushes kind w segment isLast { w with parts := if isLast then parts ++ [[]] else parts }
  | drive {c : Char} : w.IsOutermost kind → isAlpha c = true → NoDots (unbroken segment) →
      isDriveLetter (unbroken segment) = true →
      Pushes kind w segment isLast ⟨[[c, ':']], true⟩
  | plain : NoDots (unbroken segment) →
      (w.IsOutermost kind → isDriveLetter (unbroken segment) = false) →
      Pushes kind w segment isLast
        { w with parts := w.parts ++ [percentEncode .path (unbroken segment)] }

theorem Walk.pushes (kind : Kind) (w : Walk) (segment : List Char) (isLast : Bool) :
    w.Pushes kind segment isLast (w.push kind segment isLast) := by
  have hiff : (decide (kind = .file) && w.parts.isEmpty) = true ↔ w.IsOutermost kind := by
    simp [IsOutermost]
  dsimp only [push]
  split
  · rename_i drive rest hcut
    split at hcut
    · rename_i houter
      obtain ⟨c, hc, rfl, hrest⟩ := cutDrive?_eq_some hcut
      exact .cut (hiff.mp houter) hc hrest hcut
    · cases hcut
  · split
    · rename_i parts hdots
      refine .dots (fun hnone => ?_) (afterDots?_eq_some hdots)
      rw [afterDots?_eq_none_iff.mpr hnone] at hdots
      cases hdots
    · rename_i hdots
      split
      · rename_i hdrive
        obtain ⟨houter, hletter⟩ := Bool.and_eq_true_iff.mp hdrive
        obtain ⟨c, hc, htake⟩ := exists_of_isDriveLetter hletter
        rw [htake]
        exact .drive (hiff.mp houter) hc (afterDots?_eq_none_iff.mp hdots) hletter
      · rename_i hdrive
        refine .plain (afterDots?_eq_none_iff.mp hdots) fun houter => ?_
        simpa [hiff.mpr houter] using hdrive

/-! ## What a walk consists of -/

/-- The segments of a path that was read. Only the path of a file may have dot segments. -/
def Walk.IsSettled (kind : Kind) (w : Walk) : Prop :=
  ∀ part ∈ w.parts, IsSegment kind part ∧ (kind ≠ .file → NoDots part)

theorem Walk.IsSettled.push {w : Walk} (h : w.IsSettled kind)
    (hpart : ∀ c ∈ part, isSlash kind c = false) (isLast : Bool) :
    (w.push kind part isLast).IsSettled kind := by
  have hunbroken : ∀ c ∈ unbroken part, isSlash kind c = false :=
    fun c hc => hpart c (List.mem_filter.mp hc).1
  have hpushes := w.pushes kind part isLast
  generalize w.push kind part isLast = w' at hpushes ⊢
  cases hpushes with
  | cut houter hc hrest hcut =>
    exact List.forall_mem_cons.mpr ⟨⟨isSegment_drive hc, fun hkind => absurd houter.1 hkind⟩,
      List.forall_mem_singleton.mpr ⟨isSegment_percentEncode fun x hx => hpart x (hrest x hx),
        fun hkind => absurd houter.1 hkind⟩⟩
  | dots hdots hfront =>
    rename_i parts
    have hparts : ∀ p ∈ parts, IsSegment kind p ∧ (kind ≠ .file → NoDots p) :=
      fun p hp => h p (hfront.mem hp)
    cases isLast with
    | false => exact hparts
    | true =>
      exact List.forall_mem_append.mpr
        ⟨hparts, by simpa using ⟨isSegment_nil kind, fun _ => noDots_nil⟩⟩
  | drive houter hc hdots hletter =>
    exact List.forall_mem_singleton.mpr ⟨isSegment_drive hc, fun hkind => absurd houter.1 hkind⟩
  | plain hdots houter =>
    exact List.forall_mem_append.mpr ⟨h, List.forall_mem_singleton.mpr
      ⟨isSegment_percentEncode hunbroken, fun _ => noDots_percentEncode hdots⟩⟩

theorem Walk.push_last_ne_nil (w : Walk) (part : List Char) :
    (w.push kind part true).parts ≠ [] := by
  have hpushes := w.pushes kind part true
  generalize w.push kind part true = w' at hpushes ⊢
  cases hpushes <;> simp

theorem Walk.pushAll_cons {next : List Char} (w : Walk) (part : List Char) :
    pushAll kind w (part :: next :: parts) =
      pushAll kind (w.push kind part false) (next :: parts) := by
  rw [pushAll]
  simp

/-- What a walk consists of stays settled, and there is something in the end. -/
theorem Walk.IsSettled.pushAll {w : Walk} (h : w.IsSettled kind) (hne : parts ≠ [])
    (hparts : ∀ part ∈ parts, ∀ c ∈ part, isSlash kind c = false) :
    (w.pushAll kind parts).IsSettled kind ∧ (w.pushAll kind parts).parts ≠ [] := by
  induction parts generalizing w with
  | nil => exact absurd rfl hne
  | cons part more ih =>
    have hpart := hparts part List.mem_cons_self
    cases more with
    | nil => exact ⟨h.push hpart true, w.push_last_ne_nil part⟩
    | cons next more =>
      rw [Walk.pushAll_cons]
      exact ih (h.push hpart false) (List.cons_ne_nil _ _)
        fun p hp => hparts p (List.mem_cons_of_mem part hp)

/-- What the segments of a path are that was read. -/
theorem walk_parts (kind : Kind) (cs : List Char) :
    (walk kind cs).IsSettled kind ∧ (walk kind cs).parts ≠ [] :=
  Walk.IsSettled.pushAll (by simp [Walk.IsSettled]) (splitAt_ne_nil _ _)
    fun _ hp c hc => (mem_splitAt hp c hc).2

/-! ## Reading a path again -/

/-- What becomes of a walk with a segment that needs no encoding. -/
theorem Walk.push_segment (w : Walk) (h : IsSegment kind part) (isLast : Bool) :
    (¬NoDots part ∧ ∃ parts, parts <+: w.parts ∧
      w.push kind part isLast = ⟨if isLast then parts ++ [[]] else parts, w.onDrive⟩) ∨
    (NoDots part ∧ w.IsOutermost kind ∧ isDriveLetter part = true ∧
      ∃ c, w.push kind part isLast = ⟨[[c, ':']], true⟩) ∨
    (NoDots part ∧ (w.IsOutermost kind → isDriveLetter part = false) ∧
      w.push kind part isLast = ⟨w.parts ++ [part], w.onDrive⟩) := by
  have hunbroken : unbroken part = part := unbroken_of_forall h.isBreak
  have hpushes := w.pushes kind part isLast
  generalize w.push kind part isLast = w' at hpushes ⊢
  cases hpushes with
  | cut houter hc hrest hcut =>
    rw [cutDrive?_of_forall h.isBreak] at hcut
    cases hcut
  | dots hnot hfront => exact .inl ⟨hunbroken ▸ hnot, _, hfront, rfl⟩
  | drive houter hc hdots hletter =>
    exact .inr (.inl ⟨hunbroken ▸ hdots, houter, hunbroken ▸ hletter, _, rfl⟩)
  | plain hdots hdrive =>
    refine .inr (.inr ⟨hunbroken ▸ hdots, fun houter => hunbroken ▸ hdrive houter, ?_⟩)
    rw [hunbroken, percentEncode_of_forall h.kept]

/-- A segment without steps is added as it is. -/
theorem Walk.push_of_noDots {w : Walk} (h : IsSegment kind part) (hdots : NoDots part)
    (hdrive : w.IsOutermost kind → isDriveLetter part = false) (isLast : Bool) :
    w.push kind part isLast = ⟨w.parts ++ [part], w.onDrive⟩ := by
  rcases w.push_segment h isLast with ⟨hnot, -⟩ | ⟨-, houter, hletter, -⟩ | ⟨-, -, hpush⟩
  · exact absurd hdots hnot
  · rw [hdrive houter] at hletter
    cases hletter
  · exact hpush

theorem Walk.pushAll_of_noDots {w : Walk} (h : ∀ part ∈ parts, IsSegment kind part ∧ NoDots part)
    (hdrive : w.IsOutermost kind → parts.head?.all (fun part => !isDriveLetter part) = true) :
    w.pushAll kind parts = ⟨w.parts ++ parts, w.onDrive⟩ := by
  induction parts generalizing w with
  | nil => simp [pushAll]
  | cons part more ih =>
    obtain ⟨hpart, hdots⟩ := h part List.mem_cons_self
    have hpush := Walk.push_of_noDots (w := w) hpart hdots (by simpa using hdrive)
    cases more with
    | nil => exact hpush true
    | cons next more =>
      rw [pushAll_cons, hpush false, ih]
      · simp
      · exact fun p hp => h p (List.mem_cons_of_mem part hp)
      · intro houter
        exact absurd houter.2 (by simp)

theorem walk_slashed (h : ∀ p ∈ part :: parts, IsSegment kind p ∧ NoDots p)
    (hdrive : kind = .file → isDriveLetter part = false) :
    walk kind (part ++ slashed parts) = ⟨part :: parts, false⟩ := by
  obtain ⟨hpart, hparts⟩ := List.forall_mem_cons.mp h
  rw [walk, splitAt_slashed hpart.1 fun p hp => (hparts p hp).1,
    Walk.pushAll_of_noDots h (by simpa [Walk.IsOutermost] using hdrive)]
  rfl

/-- The path of a URL that is not the URL of a file is read from its text. -/
theorem pathOf_slashed (hkind : kind ≠ .file) (hne : parts ≠ [])
    (h : ∀ p ∈ parts, IsSegment kind p ∧ NoDots p) :
    pathOf kind (slashed parts) = .segments (parts.map String.ofList) := by
  obtain ⟨part, parts, rfl⟩ := List.exists_cons_of_ne_nil hne
  have hdrop : dropSlash? kind (slashed (part :: parts)) = some (part ++ slashed parts) := by
    rw [slashed_cons]
    cases kind <;> rfl
  rw [pathOf, hdrop, Option.getD_some, walk_slashed h fun hfile => absurd hfile hkind]
  rfl

/-! ## Missing segments -/

/-- The segments of a walk without the empty ones at its start. -/
def Walk.kept (w : Walk) : List (List Char) := w.parts.dropWhile (· = [])

theorem length_dropWhile_append {α : Type} (p : α → Bool) (xs ys : List α) :
    (xs.dropWhile p).length ≤ ((xs ++ ys).dropWhile p).length ∧
      ((xs ++ ys).dropWhile p).length ≤ (xs.dropWhile p).length + ys.length := by
  rw [List.dropWhile_append]
  split
  · rename_i hempty
    have hle := (List.dropWhile_suffix (l := ys) p).length_le
    rw [List.isEmpty_iff.mp hempty]
    simpa using hle
  · simp

theorem Walk.length_push {w : Walk} (h : IsSegment kind part) (isLast : Bool) :
    (w.push kind part isLast).kept.length ≤ w.kept.length + 1 := by
  rcases w.push_segment h isLast with ⟨-, parts, ⟨more, hmore⟩, hpush⟩ | ⟨-, -, -, c, hpush⟩ |
    ⟨-, -, hpush⟩
  · have hle := (length_dropWhile_append (· = []) parts more).1
    rw [hmore] at hle
    rw [hpush]
    cases isLast with
    | false => exact Nat.le_succ_of_le hle
    | true =>
      exact (length_dropWhile_append (· = []) parts [[]]).2.trans (Nat.succ_le_succ hle)
  · rw [hpush]
    exact Nat.succ_le_succ (Nat.zero_le _)
  · rw [hpush]
    exact (length_dropWhile_append (· = []) w.parts [part]).2

theorem Walk.length_push_of_dots {w : Walk} (h : ¬NoDots part) (hpart : IsSegment kind part) :
    (w.push kind part false).kept.length ≤ w.kept.length := by
  rcases w.push_segment hpart false with ⟨-, parts, ⟨more, hmore⟩, hpush⟩ | ⟨hdots, -⟩ | ⟨hdots, -⟩
  · have hle := (length_dropWhile_append (· = []) parts more).1
    rw [hmore] at hle
    rw [hpush]
    exact hle
  · exact absurd hdots h
  · exact absurd hdots h

theorem Walk.pushAll_append {last : List Char} (w : Walk) (part : List Char) :
    w.pushAll kind (part :: parts ++ [last]) =
      (w.push kind part false).pushAll kind (parts ++ [last]) := by
  obtain ⟨next, more, hcons⟩ := List.exists_cons_of_ne_nil (List.append_ne_nil_of_right_ne_nil parts
    (List.cons_ne_nil last []))
  rw [List.cons_append, hcons, pushAll_cons]

theorem Walk.length_pushAll {w : Walk} {last : List Char}
    (h : ∀ part ∈ parts ++ [last], IsSegment kind part) :
    (w.pushAll kind (parts ++ [last])).kept.length ≤ w.kept.length + parts.length + 1 := by
  induction parts generalizing w with
  | nil => exact length_push (h last (by simp)) true
  | cons part more ih =>
    have hpush := length_push (w := w) (h part (by simp)) false
    have hmore := ih (w := w.push kind part false) fun p hp => h p (List.mem_cons_of_mem part hp)
    rw [pushAll_append, List.length_cons]
    omega

/-- Where no segment is missing from a walk, none but the last one was a step. -/
theorem Walk.noDots_of_length {w : Walk} {last : List Char}
    (h : ∀ part ∈ parts ++ [last], IsSegment kind part)
    (hlength : w.kept.length + parts.length < (w.pushAll kind (parts ++ [last])).kept.length) :
    ∀ part ∈ parts, NoDots part := by
  induction parts generalizing w with
  | nil => simp
  | cons part more ih =>
    rw [pushAll_append, List.length_cons] at hlength
    have hpart := h part (by simp)
    have hmore : ∀ p ∈ more ++ [last], IsSegment kind p :=
      fun p hp => h p (List.mem_cons_of_mem part hp)
    refine List.forall_mem_cons.mpr ⟨?_, ih (w := w.push kind part false) hmore ?_⟩
    · by_contra hdots
      have hpush := length_push_of_dots (w := w) hdots hpart
      have hrest := length_pushAll (w := w.push kind part false) hmore
      omega
    · have hpush := length_push (w := w) hpart false
      omega

/-- A walk that ends with a step ends with an empty segment. -/
theorem Walk.getLast?_of_dots {w : Walk} {last : List Char} (h : ¬NoDots last)
    (hlast : IsSegment kind last) :
    (w.pushAll kind (parts ++ [last])).parts.getLast? = some [] := by
  induction parts generalizing w with
  | nil =>
    rcases w.push_segment hlast true with ⟨-, parts, -, hpush⟩ | ⟨hdots, -⟩ | ⟨hdots, -⟩
    · rw [List.nil_append, pushAll, hpush]
      simp
    · exact absurd hdots h
    · exact absurd hdots h
  | cons part more ih =>
    rw [pushAll_append]
    exact ih

/-- The path of a file that is read as it was written had no steps. -/
theorem Walk.noDots_of_kept {w : Walk} (hw : w.kept = []) (h : ∀ part ∈ parts, IsSegment kind part)
    (hkept : (w.pushAll kind parts).kept = parts) : ∀ part ∈ parts, NoDots part := by
  induction parts using List.reverseRecOn with
  | nil => simp
  | append_singleton init last ih =>
    have hinit := noDots_of_length (w := w) h (by simp [hw, hkept])
    refine List.forall_mem_append.mpr ⟨hinit, List.forall_mem_singleton.mpr ?_⟩
    by_contra hdots
    have hempty : (w.pushAll kind (init ++ [last])).parts.getLast? = some [] :=
      getLast?_of_dots hdots (h last (by simp))
    rw [← List.takeWhile_append_dropWhile (p := fun part => decide (part = []))
      (l := (w.pushAll kind (init ++ [last])).parts)] at hempty
    change (_ ++ (w.pushAll kind (init ++ [last])).kept).getLast? = _ at hempty
    rw [hkept, ← List.append_assoc, List.getLast?_concat] at hempty
    cases hempty
    exact hdots noDots_nil

/-! ## Letters of drives -/

theorem noDots_of_isDriveLetter (h : isDriveLetter part = true) : NoDots part := by
  match part, h with
  | [c, d], h =>
    have hc := (Bool.and_eq_true_iff.mp h).1
    have hdots : dots [c, d] = c :: dots [d] := dots_cons_of_ne (by rintro rfl; cases hc)
    have hne : c ≠ '.' := by rintro rfl; cases hc
    refine ⟨?_, ?_⟩ <;>
    · rw [hdots]
      intro heq
      injection heq with heq _
      exact hne heq

theorem Walk.onDrive_pushAll {w : Walk} (h : w.onDrive = true) :
    (w.pushAll kind parts).onDrive = true := by
  induction parts generalizing w with
  | nil => exact h
  | cons part more ih =>
    have hpush : ∀ isLast, (w.push kind part isLast).onDrive = true := by
      intro isLast
      have hpushes := w.pushes kind part isLast
      generalize w.push kind part isLast = w' at hpushes ⊢
      cases hpushes <;> first | exact h | rfl
    cases more with
    | nil => exact hpush true
    | cons next more =>
      rw [pushAll_cons]
      exact ih (hpush false)

/-- The letter of a drive counts where it comes first. -/
theorem onDrive_walk (h : isDriveLetter part = true)
    (hparts : ∀ p ∈ part :: parts, IsSegment .file p) :
    (walk .file (part ++ slashed parts)).onDrive = true := by
  obtain ⟨hpart, hmore⟩ := List.forall_mem_cons.mp hparts
  have hpush : ∀ isLast, (Walk.push .file ⟨[], false⟩ part isLast).onDrive = true := by
    intro isLast
    rcases Walk.push_segment ⟨[], false⟩ hpart isLast with ⟨hnot, -⟩ | ⟨-, -, -, c, hpush⟩ |
      ⟨-, hdrive, -⟩
    · exact absurd (noDots_of_isDriveLetter h) hnot
    · rw [hpush]
    · have hnot := hdrive ⟨rfl, rfl⟩
      rw [h] at hnot
      cases hnot
  rw [walk, splitAt_slashed hpart hmore]
  cases parts with
  | nil => exact hpush true
  | cons next parts =>
    rw [Walk.pushAll_cons]
    exact Walk.onDrive_pushAll (hpush false)

/-! ## Paths of files -/

/-- The segments of the path of a file. -/
def Walk.fileParts (w : Walk) : List (List Char) := if w.kept = [] then [[]] else w.kept

theorem Walk.filePath_eq (w : Walk) : w.filePath = .segments (w.fileParts.map String.ofList) := by
  unfold filePath fileParts
  change Path.segments (if w.kept.isEmpty then _ else _) = _
  by_cases h : w.kept = []
  · rw [if_pos h, if_pos (List.isEmpty_iff.mpr h)]
    rfl
  · rw [if_neg h, if_neg (mt List.isEmpty_iff.mp h)]
    rfl

/-- The path of a file is a single empty segment or starts with one that is not empty. -/
def IsFilePath (parts : List (List Char)) : Prop := parts = [[]] ∨ ∃ part ∈ parts.head?, part ≠ []

theorem IsFilePath.ne_nil (h : IsFilePath parts) : parts ≠ [] := by
  rcases h with rfl | ⟨part, hpart, -⟩
  · simp
  · rintro rfl
    cases hpart

theorem Walk.isFilePath (w : Walk) : IsFilePath w.fileParts := by
  unfold fileParts
  split
  · exact .inl rfl
  · rename_i hne
    obtain ⟨part, more, hcons⟩ := List.exists_cons_of_ne_nil hne
    have hnot := List.head?_dropWhile_not (fun part => decide (part = [])) w.parts
    have hdrop : w.parts.dropWhile (fun part => decide (part = [])) = part :: more := hcons
    rw [hdrop] at hnot
    rw [hcons]
    exact .inr ⟨part, rfl, by simpa using hnot⟩

theorem Walk.IsSettled.fileParts {w : Walk} (h : w.IsSettled .file) :
    ∀ part ∈ w.fileParts, IsSegment .file part := by
  unfold Walk.fileParts
  split
  · simpa using isSegment_nil .file
  · exact fun part hpart => (h part ((List.dropWhile_suffix _).mem hpart)).1

theorem IsFilePath.fileParts (h : IsFilePath parts) (onDrive : Bool) :
    Walk.fileParts ⟨parts, onDrive⟩ = parts ∧ Walk.fileParts ⟨[] :: parts, onDrive⟩ = parts := by
  rcases h with rfl | ⟨part, hpart, hne⟩
  · exact ⟨rfl, rfl⟩
  · cases parts with
    | nil => cases hpart
    | cons next more =>
      cases hpart
      have hkept : (part :: more).dropWhile (fun part => decide (part = [])) = part :: more :=
        List.dropWhile_cons_of_neg (by simpa using hne)
      have hkept' : ([] :: part :: more).dropWhile (fun part => decide (part = [])) = part :: more :=
        (List.dropWhile_cons_of_pos (by simp)).trans hkept
      unfold Walk.fileParts Walk.kept
      rw [hkept, hkept', if_neg (List.cons_ne_nil part more)]
      exact ⟨rfl, rfl⟩

/-- The path of a file that is read as it was written has no steps. -/
theorem Walk.noDots_of_fileParts {w : Walk} (hw : w.kept = [])
    (h : ∀ part ∈ parts, IsSegment kind part)
    (hparts : (w.pushAll kind parts).fileParts = parts) : ∀ part ∈ parts, NoDots part := by
  unfold fileParts at hparts
  split at hparts
  · rw [← hparts]
    simpa using noDots_nil
  · exact noDots_of_kept hw h hparts

theorem slashed_injective {more : List (List Char)} (h : ∀ part ∈ parts, IsSegment kind part)
    (hmore : ∀ part ∈ more, IsSegment kind part) (heq : slashed parts = slashed more) :
    parts = more := by
  have hsplit := splitAt_slashed (isSegment_nil kind) h
  rw [heq, splitAt_slashed (isSegment_nil kind) hmore] at hsplit
  exact (List.cons.inj hsplit).2.symm

end FsGateway.Url
