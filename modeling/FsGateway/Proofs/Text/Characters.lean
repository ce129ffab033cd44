import FsGateway.Text.Utf8

/-!
# The bytes of characters

A character of ASCII is one byte. The first byte of any other character is at least `0xC0`, and the
bytes after it continue it.

* `encodeChar_cases`: the two forms.
* `le_of_mem_encodeChar`: the bytes of a character that is not of ASCII.
* `encodeChar_append_inj`: the first character can be told from the bytes of a text.
-/

namespace FsGateway.Text

variable {c d : Char} {rest rest' : Bytes} {s : String}

/-- Characters are ordered by their code points. -/
theorem le_iff_toNat_le : c ≤ d ↔ c.toNat ≤ d.toNat := Iff.rfl

theorem encode_singleton (c : Char) : encode (String.singleton c) = String.utf8EncodeChar c := by
  simp [encode, List.utf8Encode]

theorem encode_ofList (cs : List Char) :
    encode (String.ofList cs) = cs.flatMap String.utf8EncodeChar := by
  simp [encode, List.utf8Encode]

theorem encode_eq_flatMap (s : String) : encode s = s.toList.flatMap String.utf8EncodeChar := by
  rw [← encode_ofList, String.ofList_toList]

theorem encodeChar_ascii (h : c.toNat < 0x80) :
    String.utf8EncodeChar c = [UInt8.ofNat c.toNat] := by
  have hvalue : c.val.toNat = c.toNat := rfl
  have hsize : c.utf8Size = 1 := by
    rw [Char.utf8Size_eq_one_iff, UInt32.le_iff_toNat_le, hvalue]
    exact Nat.le_of_lt_succ h
  rw [String.utf8EncodeChar_eq_singleton hsize]
  rfl

/-- A byte that is not the first of a character. -/
theorem isContinuation_ofNat {n : Nat} (hlow : 0x80 ≤ n) (hhigh : n ≤ 0xBF) :
    isContinuation (UInt8.ofNat n) = true := by
  have hvalue : (UInt8.ofNat n).toNat = n := by
    rw [UInt8.toNat_ofNat', Nat.mod_eq_of_lt (by omega)]
  simp only [isContinuation, Bool.and_eq_true, decide_eq_true_eq, UInt8.le_iff_toNat_le, hvalue]
  exact ⟨hlow, hhigh⟩

theorem le_ofNat {n : Nat} (hlow : 0xC0 ≤ n) (hhigh : n < 256) : 0xC0 ≤ UInt8.ofNat n := by
  rw [UInt8.le_iff_toNat_le, UInt8.toNat_ofNat', Nat.mod_eq_of_lt hhigh]
  exact hlow

/-- The bytes of a character: one byte of ASCII, or a first byte and others that continue it. -/
theorem encodeChar_cases (c : Char) :
    (c.toNat < 0x80 ∧ String.utf8EncodeChar c = [UInt8.ofNat c.toNat]) ∨
    ∃ lead tail, String.utf8EncodeChar c = lead :: tail ∧ 0xC0 ≤ lead ∧
      ∀ b ∈ tail, isContinuation b = true := by
  by_cases hascii : c.toNat < 0x80
  · exact .inl ⟨hascii, encodeChar_ascii hascii⟩
  right
  have hvalue : c.val.toNat = c.toNat := rfl
  rw [String.utf8EncodeChar]
  simp only [hvalue]
  rw [if_neg (by omega)]
  split
  · refine ⟨_, _, rfl, le_ofNat (by omega) (by omega), ?_⟩
    simp only [List.mem_singleton, forall_eq]
    exact isContinuation_ofNat (by omega) (by omega)
  · split
    · refine ⟨_, _, rfl, le_ofNat (by omega) (by omega), ?_⟩
      simp only [List.forall_mem_cons, List.not_mem_nil, false_imp_iff, implies_true, and_true]
      exact ⟨isContinuation_ofNat (by omega) (by omega), isContinuation_ofNat (by omega) (by omega)⟩
    · refine ⟨_, _, rfl, le_ofNat (by omega) (by omega), ?_⟩
      simp only [List.forall_mem_cons, List.not_mem_nil, false_imp_iff, implies_true, and_true]
      exact ⟨isContinuation_ofNat (by omega) (by omega), isContinuation_ofNat (by omega) (by omega),
        isContinuation_ofNat (by omega) (by omega)⟩

theorem encodeChar_eq_cons (c : Char) : ∃ lead tail, String.utf8EncodeChar c = lead :: tail ∧
    ∀ b ∈ tail, isContinuation b = true := by
  rcases encodeChar_cases c with ⟨-, h⟩ | ⟨lead, tail, h, -, htail⟩
  · exact ⟨_, [], h, fun b hb => by cases hb⟩
  · exact ⟨lead, tail, h, htail⟩

theorem encodeChar_ne_nil (c : Char) : String.utf8EncodeChar c ≠ [] := by
  obtain ⟨lead, tail, h, -⟩ := encodeChar_eq_cons c
  simp [h]

/-- The first byte of a character continues none. -/
theorem isContinuation_head {b : UInt8} (h : String.utf8EncodeChar c = b :: rest) :
    isContinuation b = false := by
  rcases encodeChar_cases c with ⟨hascii, heq⟩ | ⟨lead, tail, heq, hlead, -⟩
  · rw [heq] at h
    cases h
    simp only [isContinuation, Bool.and_eq_false_iff, decide_eq_false_iff_not,
      UInt8.le_iff_toNat_le, UInt8.toNat_ofNat']
    left
    have h80 : (0x80 : UInt8).toNat = 0x80 := rfl
    omega
  · rw [heq] at h
    cases h
    have hC0 : (0xC0 : UInt8).toNat = 0xC0 := rfl
    have hBF : (0xBF : UInt8).toNat = 0xBF := rfl
    simp only [isContinuation, Bool.and_eq_false_iff, decide_eq_false_iff_not,
      UInt8.le_iff_toNat_le] at hlead ⊢
    omega

/-- All bytes of a character that is not of ASCII are at least `0x80`. -/
theorem le_of_mem_encodeChar (h : 0x80 ≤ c.toNat) : ∀ b ∈ String.utf8EncodeChar c, 0x80 ≤ b := by
  rcases encodeChar_cases c with ⟨hascii, -⟩ | ⟨lead, tail, hbytes, hlead, htail⟩
  · omega
  · rw [hbytes]
    refine List.forall_mem_cons.mpr ⟨UInt8.le_trans (by decide) hlead, fun b hb => ?_⟩
    have hb := htail b hb
    rw [isContinuation, Bool.and_eq_true, decide_eq_true_eq] at hb
    exact hb.1

/-- The first character of a text is found again in its bytes. -/
theorem encodeChar_append_inj
    (h : String.utf8EncodeChar c ++ rest = String.utf8EncodeChar d ++ rest') :
    c = d ∧ rest = rest' := by
  have hdecode : ∀ (x : Char) (bs : Bytes),
      (⟨(String.utf8EncodeChar x ++ bs).toArray⟩ : ByteArray).utf8DecodeChar? 0 = some x := by
    intro x bs
    have hbytes : (⟨(String.utf8EncodeChar x ++ bs).toArray⟩ : ByteArray) =
        (String.utf8EncodeChar x).toByteArray ++ ⟨bs.toArray⟩ := by
      apply ByteArray.ext
      simp
    rw [hbytes]
    exact ByteArray.utf8DecodeChar?_utf8EncodeChar_append
  have hc := hdecode c rest
  rw [h, hdecode d rest'] at hc
  cases hc
  exact ⟨rfl, List.append_cancel_left h⟩

end FsGateway.Text
