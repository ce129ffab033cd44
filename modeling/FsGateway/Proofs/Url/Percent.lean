import FsGateway.Proofs.Text.Characters
import FsGateway.Url.Basic
import Mathlib.Data.Bool.AllAny

/-!
# Percent encoding is done once

What has been percent-encoded has no character left that would have to be, so encoding it again
changes nothing.

* `contains_of_mem_percentEncode`, `percentEncode_of_forall`: the characters of an encoded text.
* `dots_percentEncode`: a segment is a dot segment before it is encoded if it is one after that.
-/

namespace FsGateway.Url

variable {set : EncodeSet} {c x : Char} {cs : List Char}

/-! ## Characters -/

theorem contains_upperHex (set : EncodeSet) : ∀ n < 16, set.contains (upperHex n) = false := by
  cases set <;> decide

theorem contains_percent (set : EncodeSet) : set.contains '%' = false := by
  cases set <;> decide

/-- A character that is not encoded is printable. -/
theorem printable_of_not_contains (h : set.contains c = false) :
    0x20 ≤ c.toNat ∧ c.toNat ≤ 0x7E ∧ c ∉ set.printable := by
  simp only [EncodeSet.contains, Bool.or_eq_false_iff, decide_eq_false_iff_not] at h
  obtain ⟨⟨hlow, hhigh⟩, hprintable⟩ := h
  refine ⟨by omega, by omega, ?_⟩
  simpa using hprintable

theorem mem_encodeChar (h : x ∈ encodeChar set c) :
    (x = c ∧ set.contains c = false) ∨ x = '%' ∨ ∃ n < 16, x = upperHex n := by
  unfold encodeChar at h
  split at h
  · obtain ⟨b, -, hx⟩ := List.mem_flatMap.mp h
    have hbyte := b.toNat_lt
    simp only [percentByte, List.mem_cons, List.not_mem_nil, or_false] at hx
    rcases hx with rfl | rfl | rfl
    · exact .inr (.inl rfl)
    · exact .inr (.inr ⟨_, by omega, rfl⟩)
    · exact .inr (.inr ⟨_, by omega, rfl⟩)
  · rename_i hkept
    exact .inl ⟨List.mem_singleton.mp h, by simpa using hkept⟩

theorem mem_percentEncode (h : x ∈ percentEncode set cs) :
    (x ∈ cs ∧ set.contains x = false) ∨ x = '%' ∨ ∃ n < 16, x = upperHex n := by
  obtain ⟨c, hc, hx⟩ := List.mem_flatMap.mp h
  rcases mem_encodeChar hx with ⟨rfl, hkept⟩ | hother
  · exact .inl ⟨hc, hkept⟩
  · exact .inr hother

theorem contains_of_mem_percentEncode (h : x ∈ percentEncode set cs) : set.contains x = false := by
  rcases mem_percentEncode h with ⟨-, hkept⟩ | rfl | ⟨n, hn, rfl⟩
  · exact hkept
  · exact contains_percent set
  · exact contains_upperHex set n hn

theorem percentEncode_cons (h : set.contains c = false) :
    percentEncode set (c :: cs) = c :: percentEncode set cs := by
  rw [percentEncode, List.flatMap_cons, encodeChar, h]
  rfl

theorem percentEncode_of_forall (h : ∀ c ∈ cs, set.contains c = false) :
    percentEncode set cs = cs := by
  induction cs with
  | nil => rfl
  | cons c cs ih =>
    rw [percentEncode_cons (h c List.mem_cons_self),
      ih fun x hx => h x (List.mem_cons_of_mem c hx)]

/-! ## Dot segments -/

/-- A dot has the only byte that stands for a dot. -/
theorem eq_dot_of_byte (h : 0x2E ∈ Text.encode (String.singleton c)) : c = '.' := by
  rw [Text.encode_singleton] at h
  rcases Text.encodeChar_cases c with ⟨hascii, hbytes⟩ | ⟨lead, tail, hbytes, hlead, htail⟩
  · rw [hbytes, List.mem_singleton] at h
    have hnat := congrArg UInt8.toNat h
    rw [UInt8.toNat_ofNat', Nat.mod_eq_of_lt (by omega)] at hnat
    exact Char.toNat_inj.mp hnat.symm
  · -- all bytes of a character beyond ASCII have their highest bit
    rw [hbytes] at h
    rcases List.mem_cons.mp h with rfl | h
    · exact absurd hlead (by decide)
    · exact absurd (htail _ h) (by decide)

theorem dots_cons_of_ne (h : c ≠ '%') : dots (c :: cs) = c :: dots cs := by
  rw [dots.eq_3] <;> intro rest hc <;> exact absurd hc h

/-- The uppercase digits of a byte that is no dot do not stand for a dot. -/
theorem dots_percentByte {b : UInt8} (hb : b ≠ 0x2E) (cs : List Char) :
    dots (percentByte b ++ cs) = percentByte b ++ dots cs := by
  have hbyte := b.toNat_lt
  have hdigit : ∀ n < 16, upperHex n ≠ '%' ∧ upperHex n ≠ 'e' ∧
      (upperHex n = '2' → n = 2) ∧ (upperHex n = 'E' → n = 14) := by decide
  obtain ⟨hhigh, -, htwo, -⟩ := hdigit (b.toNat / 16) (by omega)
  obtain ⟨hlow, he, -, hE⟩ := hdigit (b.toNat % 16) (by omega)
  show dots ('%' :: upperHex (b.toNat / 16) :: upperHex (b.toNat % 16) :: cs) = _
  rw [dots.eq_3, dots_cons_of_ne hhigh, dots_cons_of_ne hlow]
  · rfl
  · intro rest _ heq
    injection heq with _ heq
    injection heq with heq _
    exact he heq
  · intro rest _ heq
    injection heq with hfirst heq
    injection heq with hsecond _
    have hhighValue := htwo hfirst
    have hlowValue := hE hsecond
    exact hb (UInt8.toNat_inj.mp (by omega : b.toNat = 46))

theorem dots_flatMap_percentByte {bytes : Bytes} (h : 0x2E ∉ bytes) (cs : List Char) :
    dots (bytes.flatMap percentByte ++ cs) = bytes.flatMap percentByte ++ dots cs := by
  induction bytes with
  | nil => rfl
  | cons b bytes ih =>
    obtain ⟨hb, hbytes⟩ := not_or.mp (mt List.mem_cons.mpr h)
    rw [List.flatMap_cons, List.append_assoc, dots_percentByte (Ne.symm hb), ih hbytes,
      List.append_assoc]

theorem head?_encodeChar (h : set.contains c = true) : (encodeChar set c).head? = some '%' := by
  have hbytes : Text.encode (String.singleton c) ≠ [] := by
    rw [Text.encode_singleton]
    exact Text.encodeChar_ne_nil c
  obtain ⟨b, bytes, hcons⟩ := List.exists_cons_of_ne_nil hbytes
  rw [encodeChar, if_pos h, hcons]
  rfl

/-- A character at the start of an encoded text stood there before, unless it is a percent sign. -/
theorem exists_of_percentEncode_eq_cons {rest : List Char} (h : percentEncode set cs = x :: rest)
    (hx : x ≠ '%') : ∃ cs', cs = x :: cs' ∧ percentEncode set cs' = rest := by
  cases cs with
  | nil => cases h
  | cons c cs =>
    cases hc : set.contains c with
    | false =>
      rw [percentEncode_cons hc] at h
      cases h
      exact ⟨cs, rfl, rfl⟩
    | true =>
      have hhead := head?_encodeChar hc
      cases hencoded : encodeChar set c with
      | nil =>
        rw [hencoded] at hhead
        cases hhead
      | cons y ys =>
        rw [hencoded] at hhead
        rw [percentEncode, List.flatMap_cons, hencoded] at h
        cases h
        cases hhead
        exact absurd rfl hx

/-- A text without percent signs is the encoded form of itself only. -/
theorem eq_of_percentEncode_eq {ds : List Char} (h : percentEncode set cs = ds)
    (hds : ∀ d ∈ ds, d ≠ '%') : cs = ds := by
  induction ds generalizing cs with
  | nil =>
    cases cs with
    | nil => rfl
    | cons c cs =>
      obtain ⟨hnil, -⟩ := List.append_eq_nil_iff.mp h
      cases hc : set.contains c with
      | false =>
        rw [encodeChar, hc] at hnil
        cases hnil
      | true =>
        have hhead := head?_encodeChar hc
        rw [hnil] at hhead
        cases hhead
  | cons d ds ih =>
    obtain ⟨cs', rfl, hrest⟩ := exists_of_percentEncode_eq_cons h (hds d List.mem_cons_self)
    rw [ih hrest fun x hx => hds x (List.mem_cons_of_mem d hx)]

/-- Encoding makes no dots and hides none. -/
theorem dots_percentEncode (hset : set.contains '.' = false) (cs : List Char) :
    dots (percentEncode set cs) = percentEncode set (dots cs) := by
  have htwo : set.contains '2' = false := contains_upperHex set 2 (by omega)
  have hE : set.contains 'E' = false := contains_upperHex set 14 (by omega)
  have he : set.contains 'e' = false := by cases set <;> decide
  have hpercent := contains_percent set
  fun_induction dots cs with
  | case1 rest ih =>
    rw [percentEncode_cons hpercent, percentEncode_cons htwo, percentEncode_cons he, dots.eq_1, ih,
      percentEncode_cons hset]
  | case2 rest ih =>
    rw [percentEncode_cons hpercent, percentEncode_cons htwo, percentEncode_cons hE, dots.eq_2, ih,
      percentEncode_cons hset]
  | case3 c rest hlower hupper ih =>
    cases hc : set.contains c with
    | true =>
      have hbytes : 0x2E ∉ Text.encode (String.singleton c) := by
        intro hdot
        rw [eq_dot_of_byte hdot, hset] at hc
        cases hc
      rw [percentEncode, List.flatMap_cons, encodeChar, if_pos hc, dots_flatMap_percentByte hbytes,
        percentEncode, List.flatMap_cons, encodeChar, if_pos hc]
      exact congrArg _ ih
    | false =>
      rw [percentEncode_cons hc, percentEncode_cons hc, dots.eq_3, ih]
      · intro tail hfirst heq
        obtain ⟨cs', rfl, hsecond⟩ := exists_of_percentEncode_eq_cons heq (by decide)
        obtain ⟨cs'', rfl, -⟩ := exists_of_percentEncode_eq_cons hsecond (by decide)
        exact hlower cs'' hfirst rfl
      · intro tail hfirst heq
        obtain ⟨cs', rfl, hsecond⟩ := exists_of_percentEncode_eq_cons heq (by decide)
        obtain ⟨cs'', rfl, -⟩ := exists_of_percentEncode_eq_cons hsecond (by decide)
        exact hupper cs'' hfirst rfl
  | case4 => rfl

end FsGateway.Url
