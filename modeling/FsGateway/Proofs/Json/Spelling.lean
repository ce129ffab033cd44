import FsGateway.Json.Text
import FsGateway.Proofs.Text.Characters
import Mathlib.Data.Bool.AllAny

/-!
# What a string stands for

A string is a sequence of characters, each written as itself or as an escape. A surrogate is an
escape only together with its other half, so half of a pair stands for nothing.

* `RawForm`: what can stand between two quotes, as far as its end can be found.
* `Spells`: the characters that a raw form stands for.
* `scan_eq_some_iff`: the raw form at the start of an input ends at the first quote that is not
  part of an escape.
* `value?_eq_some_iff`: the text of a raw form is the one that it spells.
-/

namespace FsGateway.Json.Text

open FsGateway.Text (isContinuation encode_singleton encode_eq_flatMap encodeChar_ascii
  encodeChar_cases encodeChar_eq_cons encodeChar_ne_nil encodeChar_append_inj isContinuation_head)

variable {b : UInt8} {c : Char} {cs : List Char} {raw rest bytes e : Bytes} {s : String}

/-! ## Raw forms -/

/-- What can stand between two quotes. The bytes of a raw form need not be UTF-8, and the numbers of
its escapes need not be those of characters. -/
inductive RawForm : Bytes → Prop
  | nil : RawForm []
  | plain {b : UInt8} {raw : Bytes} :
      b ≠ quote → ¬ b < 0x20 → b ≠ backslash → RawForm raw → RawForm (b :: raw)
  | short {letter : UInt8} {raw : Bytes} :
      isShortLetter letter = true → RawForm raw → RawForm (backslash :: letter :: raw)
  | code {h1 h2 h3 h4 : UInt8} {raw : Bytes} : (hex4? h1 h2 h3 h4).isSome = true → RawForm raw →
      RawForm (backslash :: 0x75 :: h1 :: h2 :: h3 :: h4 :: raw)

theorem isShortLetter_u : isShortLetter 0x75 = false := by decide

theorem rawForm_short (h : RawForm (backslash :: b :: raw)) (hb : isShortLetter b = true) :
    RawForm raw := by
  cases h with
  | plain _ _ hne _ => exact absurd rfl hne
  | short _ hraw => exact hraw
  | code _ _ => cases isShortLetter_u.symm.trans hb

theorem rawForm_code {h1 h2 h3 h4 : UInt8}
    (h : RawForm (backslash :: 0x75 :: h1 :: h2 :: h3 :: h4 :: raw)) : RawForm raw := by
  cases h with
  | plain _ _ hne _ => exact absurd rfl hne
  | short hu _ => cases isShortLetter_u.symm.trans hu
  | code _ hraw => exact hraw

/-- A raw form and the quote behind it are found at the start of an input. -/
theorem scan_append (h : RawForm raw) (rest : Bytes) :
    scan (raw ++ quote :: rest) = some (raw, rest) := by
  induction h with
  | nil =>
    rw [List.nil_append, scan.eq_def]
    rfl
  | plain hquote hcontrol hbackslash _ ih =>
    rw [List.cons_append, scan.eq_def]
    simp [hquote, hcontrol, hbackslash, ih]
  | @short letter raw hletter _ ih =>
    have hu : letter ≠ 0x75 := by
      rintro rfl
      cases isShortLetter_u.symm.trans hletter
    rw [List.cons_append, List.cons_append, scan.eq_def]
    simp [backslash, quote, hletter, hu] at ih ⊢
    simp [ih]
  | code hcode _ ih => simp_all [scan, backslash, quote]

theorem of_scan (h : scan bytes = some (raw, rest)) : RawForm raw ∧ bytes = raw ++ quote :: rest := by
  fun_induction scan bytes generalizing raw with
  | case1 | case3 | case5 | case7 | case8 => cases h
  | case2 =>
    cases h
    exact ⟨.nil, rfl⟩
  | case4 h1 h2 h3 h4 rest' hcode _ _ ih =>
    obtain ⟨⟨raw', after⟩, hscan, heq⟩ := Option.map_eq_some_iff.mp h
    cases heq
    obtain ⟨hraw, rfl⟩ := ih hscan
    exact ⟨.code hcode hraw, rfl⟩
  | case6 letter rest' _ hletter _ _ ih =>
    obtain ⟨⟨raw', after⟩, hscan, heq⟩ := Option.map_eq_some_iff.mp h
    cases heq
    obtain ⟨hraw, rfl⟩ := ih hscan
    exact ⟨.short hletter hraw, rfl⟩
  | case9 b rest' hquote hcontrol hbackslash ih =>
    obtain ⟨⟨raw', after⟩, hscan, heq⟩ := Option.map_eq_some_iff.mp h
    cases heq
    obtain ⟨hraw, rfl⟩ := ih hscan
    exact ⟨.plain hquote hcontrol hbackslash hraw, rfl⟩

/-- The raw form at the start of an input ends at the first quote that is not part of an escape. -/
theorem scan_eq_some_iff : scan bytes = some (raw, rest) ↔
    RawForm raw ∧ bytes = raw ++ quote :: rest := by
  constructor
  · exact of_scan
  · rintro ⟨hraw, rfl⟩
    exact scan_append hraw rest

/-! ## Characters -/

/-- The numbers that stand for halves of pairs. -/
def IsSurrogate (n : Nat) : Prop := 0xD800 ≤ n ∧ n ≤ 0xDFFF

/-- An escape and the character that it stands for. -/
inductive Escape : Bytes → Char → Prop
  | slash : Escape [backslash, 0x2F] '/'
  | short {b letter : UInt8} : (b, letter) ∈ shortForms →
      Escape [backslash, letter] (Char.ofNat b.toNat)
  | code {h1 h2 h3 h4 : UInt8} {n : Nat} : hex4? h1 h2 h3 h4 = some n → ¬ IsSurrogate n →
      Escape [backslash, 0x75, h1, h2, h3, h4] (Char.ofNat n)
  | pair {h1 h2 h3 h4 l1 l2 l3 l4 : UInt8} {high low : Nat} :
      hex4? h1 h2 h3 h4 = some high → 0xD800 ≤ high → high ≤ 0xDBFF →
      hex4? l1 l2 l3 l4 = some low → 0xDC00 ≤ low → low ≤ 0xDFFF →
      Escape [backslash, 0x75, h1, h2, h3, h4, backslash, 0x75, l1, l2, l3, l4]
        (Char.ofNat (0x10000 + (high - 0xD800) * 0x400 + (low - 0xDC00)))

/-- A raw form and the characters that it stands for. -/
inductive Spells : Bytes → List Char → Prop
  | nil : Spells [] []
  | plain {c : Char} {raw : Bytes} {cs : List Char} :
      c ≠ '"' → c ≠ '\\' → 0x20 ≤ c.toNat → Spells raw cs →
      Spells (String.utf8EncodeChar c ++ raw) (c :: cs)
  | escape {e : Bytes} {c : Char} {raw : Bytes} {cs : List Char} :
      Escape e c → Spells raw cs → Spells (e ++ raw) (c :: cs)

/-- A character that stands for itself has no byte that ends a string or starts an escape. -/
theorem encodeChar_plain (hquote : c ≠ '"') (hbackslash : c ≠ '\\') (hcontrol : 0x20 ≤ c.toNat) :
    ∀ b ∈ String.utf8EncodeChar c, b ≠ quote ∧ ¬ b < 0x20 ∧ b ≠ backslash := by
  have h22 : (quote : UInt8).toNat = 0x22 := rfl
  have h5C : (backslash : UInt8).toNat = 0x5C := rfl
  have h20 : (0x20 : UInt8).toNat = 0x20 := rfl
  have hne : ∀ b : UInt8, b.toNat ≠ 0x22 → 0x20 ≤ b.toNat → b.toNat ≠ 0x5C →
      b ≠ quote ∧ ¬ b < 0x20 ∧ b ≠ backslash := by
    intro b hb hlow hb'
    refine ⟨fun h => hb (h ▸ h22), ?_, fun h => hb' (h ▸ h5C)⟩
    rw [UInt8.lt_iff_toNat_lt, h20]
    omega
  intro b hb
  rcases encodeChar_cases c with ⟨hascii, heq⟩ | ⟨lead, tail, heq, hlead, htail⟩
  · rw [heq, List.mem_singleton] at hb
    have hvalue : b.toNat = c.toNat := by
      rw [hb, UInt8.toNat_ofNat', Nat.mod_eq_of_lt (by omega)]
    refine hne b (fun h => hquote ?_) (hvalue ▸ hcontrol) fun h => hbackslash ?_
    · exact Char.toNat_inj.mp (hvalue.symm.trans h)
    · exact Char.toNat_inj.mp (hvalue.symm.trans h)
  · have hC0 : (0xC0 : UInt8).toNat = 0xC0 := rfl
    have h80 : (0x80 : UInt8).toNat = 0x80 := rfl
    have hhigh : 0x80 ≤ b.toNat := by
      rw [heq, List.mem_cons] at hb
      rcases hb with rfl | hb
      · rw [UInt8.le_iff_toNat_le, hC0] at hlead
        omega
      · have hcontinues := htail b hb
        simp only [isContinuation, Bool.and_eq_true, decide_eq_true_eq,
          UInt8.le_iff_toNat_le] at hcontinues
        omega
    exact hne b (by omega) (by omega) (by omega)

/-- A character whose first byte stands for itself does so as a whole. -/
theorem plain_of_encodeChar {tail : Bytes} (h : String.utf8EncodeChar c = b :: tail)
    (hquote : b ≠ quote) (hcontrol : ¬ b < 0x20) (hbackslash : b ≠ backslash) :
    c ≠ '"' ∧ c ≠ '\\' ∧ 0x20 ≤ c.toNat := by
  refine ⟨?_, ?_, Nat.le_of_not_lt fun hlow => hcontrol ?_⟩
  · rintro rfl
    exact hquote (List.cons.inj h).1.symm
  · rintro rfl
    exact hbackslash (List.cons.inj h).1.symm
  · rw [encodeChar_ascii (by omega)] at h
    have h20 : (0x20 : UInt8).toNat = 0x20 := rfl
    rw [← (List.cons.inj h).1, UInt8.lt_iff_toNat_lt, UInt8.toNat_ofNat', h20]
    omega

theorem rawForm_append (h : ∀ b ∈ bytes, b ≠ quote ∧ ¬ b < 0x20 ∧ b ≠ backslash)
    (hraw : RawForm raw) : RawForm (bytes ++ raw) := by
  induction bytes with
  | nil => exact hraw
  | cons b bytes ih =>
    obtain ⟨hquote, hcontrol, hbackslash⟩ := h b List.mem_cons_self
    exact .plain hquote hcontrol hbackslash (ih fun x hx => h x (List.mem_cons_of_mem b hx))

theorem Spells.rawForm (h : Spells raw cs) : RawForm raw := by
  induction h with
  | nil => exact .nil
  | @plain c raw cs hquote hbackslash hcontrol _ ih =>
    exact rawForm_append (encodeChar_plain hquote hbackslash hcontrol) ih
  | escape he _ ih =>
    cases he with
    | slash => exact .short (by decide) ih
    | short hmem =>
      refine .short ?_ ih
      exact Bool.or_eq_true_iff.mpr (.inr (List.any_eq_true.mpr ⟨_, hmem, by simp⟩))
    | code hcode _ => exact .code (by rw [hcode]; rfl) ih
    | pair hhigh _ _ hlow _ _ => exact .code (by rw [hhigh]; rfl) (.code (by rw [hlow]; rfl) ih)

/-! ## Reading characters -/

theorem unescape_plain (hb : b ≠ backslash) (raw : Bytes) :
    unescape (b :: raw) = (unescape raw).map (b :: ·) := by
  rw [unescape.eq_def]
  simp only [hb, if_false]

theorem unescape_append (h : ∀ b ∈ bytes, b ≠ backslash) (raw : Bytes) :
    unescape (bytes ++ raw) = (unescape raw).map (bytes ++ ·) := by
  induction bytes with
  | nil => simp
  | cons b bytes ih =>
    rw [List.cons_append, unescape_plain (h b List.mem_cons_self),
      ih fun x hx => h x (List.mem_cons_of_mem b hx), Option.map_map]
    rfl

theorem codePoint_eq (n : Nat) : codePoint n = String.utf8EncodeChar (Char.ofNat n) :=
  encode_singleton _

/-- The letter after a backslash is found again in the table. -/
theorem find?_shortForms {letter : UInt8} (h : (b, letter) ∈ shortForms) :
    shortForms.find? (·.2 = letter) = some (b, letter) ∧ letter ≠ 0x75 ∧ letter ≠ 0x2F ∧
      String.utf8EncodeChar (Char.ofNat b.toNat) = [b] := by
  have hall : ∀ p ∈ shortForms, shortForms.find? (·.2 = p.2) = some p ∧ p.2 ≠ 0x75 ∧
      p.2 ≠ 0x2F ∧ String.utf8EncodeChar (Char.ofNat p.1.toNat) = [p.1] :=
    List.all_iff_forall_prop.mp (by decide)
  exact hall _ h

/-- An escape is read as the bytes of its character. -/
theorem unescape_escape (h : Escape e c) (raw : Bytes) :
    unescape (e ++ raw) = (unescape raw).map (String.utf8EncodeChar c ++ ·) := by
  cases h with
  | slash =>
    rw [List.cons_append, List.singleton_append, unescape.eq_def]
    rfl
  | @short b letter hmem =>
    obtain ⟨hfind, hu, hslash, hbytes⟩ := find?_shortForms hmem
    rw [List.cons_append, List.singleton_append, unescape.eq_def, hbytes]
    simp [hu, hslash, hfind]
  | @code h1 h2 h3 h4 n hcode hchar =>
    have hlow : ¬ (0xDC00 ≤ n ∧ n ≤ 0xDFFF) := fun h => hchar ⟨by omega, h.2⟩
    have hhigh : ¬ (0xD800 ≤ n ∧ n ≤ 0xDBFF) := fun h => hchar ⟨h.1, by omega⟩
    simp [unescape, hcode, hlow, hhigh, codePoint_eq]
  | @pair h1 h2 h3 h4 l1 l2 l3 l4 high low hhigh hhigh₁ hhigh₂ hlow hlow₁ hlow₂ =>
    have hfirst : ¬ (0xDC00 ≤ high ∧ high ≤ 0xDFFF) := by omega
    simp only [List.cons_append, List.nil_append]
    rw [unescape.eq_def]
    simp [hhigh, hfirst, hhigh₁, hhigh₂, hlow, hlow₁, hlow₂, codePoint_eq, backslash]

theorem unescape_of_spells (h : Spells raw cs) :
    unescape raw = some (cs.flatMap String.utf8EncodeChar) := by
  induction h with
  | nil => simp [unescape]
  | plain hquote hbackslash hcontrol _ ih =>
    have hbytes := encodeChar_plain hquote hbackslash hcontrol
    rw [unescape_append (fun b hb => (hbytes b hb).2.2), ih]
    rfl
  | escape he _ ih =>
    rw [unescape_escape he, ih]
    rfl

/-- What is read of a raw form comes from a plain byte or an escape at its start. -/
inductive Reads : Bytes → Bytes → Prop
  | nil : Reads [] []
  | plain {b : UInt8} {raw bytes : Bytes} : b ≠ quote → ¬ b < 0x20 → b ≠ backslash →
      RawForm raw → unescape raw = some bytes → Reads (b :: raw) (b :: bytes)
  | escape {e : Bytes} {c : Char} {raw bytes : Bytes} : Escape e c → RawForm raw →
      unescape raw = some bytes → Reads (e ++ raw) (String.utf8EncodeChar c ++ bytes)

theorem reads_of_unescape (hraw : RawForm raw) (h : unescape raw = some bytes) :
    Reads raw bytes := by
  -- what is read of an escape goes before what is read of the rest
  have hescape : ∀ {e rest : Bytes} {c : Char}, Escape e c → RawForm rest →
      unescape (e ++ rest) = some bytes → Reads (e ++ rest) bytes := by
    intro e rest c he hrest hread
    rw [unescape_escape he] at hread
    obtain ⟨tail, htail, rfl⟩ := Option.map_eq_some_iff.mp hread
    exact .escape he hrest htail
  have hwhole := h
  revert h
  fun_cases unescape raw with
  | case1 =>
    intro h
    cases h
    exact .nil
  | case2 | case3 | case5 | case6 | case7 | case11 | case12 =>
    intro h
    cases h
  | case4 h1 h2 h3 h4 high hhigh _ hrange l1 l2 l3 l4 rest low hlow hrange' =>
    intro _
    exact hescape (.pair hhigh hrange.1 hrange.2 hlow hrange'.1 hrange'.2)
      (rawForm_code (rawForm_code hraw)) hwhole
  | case8 h1 h2 h3 h4 rest n hcode hlow hhigh =>
    intro _
    have hchar : ¬ IsSurrogate n := fun h => hhigh ⟨h.1, by have := h.2; omega⟩
    exact hescape (.code hcode hchar) (rawForm_code hraw) hwhole
  | case9 rest _ =>
    intro _
    exact hescape .slash (rawForm_short hraw (by decide)) hwhole
  | case10 letter rest _ _ p hfind =>
    intro _
    have hmem := List.mem_of_find?_eq_some hfind
    have hletter : p.2 = letter := by simpa using List.find?_some hfind
    subst hletter
    have hshort : isShortLetter p.2 = true :=
      Bool.or_eq_true_iff.mpr (.inr (List.any_eq_true.mpr ⟨_, hmem, by simp⟩))
    exact hescape (.short hmem) (rawForm_short hraw hshort) hwhole
  | case13 b rest hb =>
    intro h
    obtain ⟨tail, htail, rfl⟩ := Option.map_eq_some_iff.mp h
    cases hraw with
    | plain hquote hcontrol hbackslash hrest =>
      exact .plain hquote hcontrol hbackslash hrest htail
    | short _ _ | code _ _ => exact absurd rfl hb

/-- Bytes that continue a character are read from themselves. -/
theorem split_continuation (hraw : RawForm raw) {tail : Bytes}
    (htail : ∀ b ∈ tail, isContinuation b = true) (h : unescape raw = some (tail ++ bytes)) :
    ∃ raw', raw = tail ++ raw' ∧ RawForm raw' ∧ unescape raw' = some bytes := by
  induction tail generalizing raw with
  | nil => exact ⟨raw, rfl, hraw, h⟩
  | cons b tail ih =>
    have hreads := reads_of_unescape hraw h
    rw [List.cons_append] at hreads
    generalize hall : b :: (tail ++ bytes) = all at hreads
    cases hreads with
    | nil => cases hall
    | plain _ _ _ hrest hread =>
      cases hall
      obtain ⟨raw', rfl, hraw', hread'⟩ := ih hrest
        (fun x hx => htail x (List.mem_cons_of_mem b hx)) hread
      exact ⟨raw', rfl, hraw', hread'⟩
    | @escape e c rest bytes' he hrest hread =>
      obtain ⟨first, more, hbytes⟩ := List.exists_cons_of_ne_nil (encodeChar_ne_nil c)
      rw [hbytes, List.cons_append] at hall
      obtain ⟨rfl, -⟩ := List.cons.inj hall
      have hcontinues := htail b List.mem_cons_self
      rw [isContinuation_head hbytes] at hcontinues
      cases hcontinues

/-- A raw form that is read as characters spells them. -/
theorem spells_of_unescape (hraw : RawForm raw)
    (h : unescape raw = some (cs.flatMap String.utf8EncodeChar)) : Spells raw cs := by
  induction cs generalizing raw with
  | nil =>
    have hreads := reads_of_unescape hraw h
    generalize hall : ([] : List Char).flatMap String.utf8EncodeChar = all at hreads
    cases hreads with
    | nil => exact .nil
    | plain => cases hall
    | @escape e c rest bytes' =>
      obtain ⟨hnil, -⟩ := List.append_eq_nil_iff.mp hall.symm
      exact absurd hnil (encodeChar_ne_nil c)
  | cons c cs ih =>
    have hreads := reads_of_unescape hraw h
    rw [List.flatMap_cons] at hreads
    generalize hall : String.utf8EncodeChar c ++ cs.flatMap String.utf8EncodeChar = all at hreads
    cases hreads with
    | nil =>
      obtain ⟨hnil, -⟩ := List.append_eq_nil_iff.mp hall
      exact absurd hnil (encodeChar_ne_nil c)
    | @escape e d rest bytes' he hrest hread =>
      obtain ⟨rfl, rfl⟩ := encodeChar_append_inj hall
      exact .escape he (ih hrest hread)
    | @plain b rest bytes' hquote hcontrol hbackslash hrest hread =>
      obtain ⟨lead, tail, hbytes, htail⟩ := encodeChar_eq_cons c
      rw [hbytes, List.cons_append] at hall
      obtain ⟨rfl, rfl⟩ := List.cons.inj hall
      obtain ⟨raw', rfl, hraw', hread'⟩ := split_continuation hrest htail hread
      obtain ⟨hc, hc', hlow⟩ := plain_of_encodeChar hbytes hquote hcontrol hbackslash
      have hspells := Spells.plain hc hc' hlow (ih hraw' hread')
      rwa [hbytes, List.cons_append] at hspells

/-- The text of a raw form is the one that it spells. -/
theorem value?_eq_some_iff (hraw : RawForm raw) : value? raw = some s ↔ Spells raw s.toList := by
  rw [value?, Option.bind_eq_some_iff]
  constructor
  · rintro ⟨bytes, hread, hdecode⟩
    rw [FsGateway.Text.decode_eq_some_iff.mp hdecode, encode_eq_flatMap] at hread
    exact spells_of_unescape hraw hread
  · intro h
    refine ⟨_, unescape_of_spells h, ?_⟩
    rw [← encode_eq_flatMap, FsGateway.Text.decode_encode]

end FsGateway.Json.Text
