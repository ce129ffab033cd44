import FsGateway.Json.Text

/-!
# Strings are read as they are written

A byte of a text is written as itself, as a backslash with a letter, or as a backslash with four
digits. Each of the three is read back as the byte, and none of them ends the string.

* `scan_raw`: the raw form of a text is found up to its closing quote.
* `value?_raw`: the raw form of a text stands for the text.
-/

namespace FsGateway.Json.Text

variable {b : UInt8}

/-- The three ways in which a byte is written. -/
inductive Written (b : UInt8) : Bytes → Prop
  | plain : b ≠ quote → b ≠ backslash → ¬ b < 0x20 → Written b [b]
  | short {letter : UInt8} : isShortLetter letter = true → letter ≠ 0x75 → letter ≠ 0x2F →
      (shortForms.find? (·.2 = letter)).map (·.1) = some b → Written b [backslash, letter]
  | hex {high low : UInt8} : hex4? 0x30 0x30 high low = some b.toNat → b.toNat < 0x20 →
      Written b [backslash, 0x75, 0x30, 0x30, high, low]

theorem hex4?_control (n : Nat) (h : n < 0x20) :
    hex4? 0x30 0x30 (hexDigit (n / 16)) (hexDigit (n % 16)) = some n := by
  decide +revert

theorem codePoint_control (n : Nat) (h : n < 0x20) : codePoint n = [UInt8.ofNat n] := by
  decide +revert

theorem short_of_lookup {letter : UInt8} (h : shortForms.lookup b = some letter) :
    Written b [backslash, letter] := by
  obtain ⟨before, after, hsplit, -⟩ := List.lookup_eq_some_iff.mp h
  have hmem : (b, letter) ∈ shortForms := by
    rw [hsplit]
    exact List.mem_append_right _ List.mem_cons_self
  simp only [shortForms, List.mem_cons, Prod.mk.injEq, List.not_mem_nil, or_false] at hmem
  rcases hmem with ⟨rfl, rfl⟩ | ⟨rfl, rfl⟩ | ⟨rfl, rfl⟩ | ⟨rfl, rfl⟩ | ⟨rfl, rfl⟩ | ⟨rfl, rfl⟩ |
    ⟨rfl, rfl⟩ <;> exact .short (by decide) (by decide) (by decide) (by decide)

theorem escape_written (b : UInt8) : Written b (escape b) := by
  unfold escape
  split
  · rename_i letter hletter
    exact short_of_lookup hletter
  · rename_i hnone
    split
    · rename_i hcontrol
      have hlt : b.toNat < 0x20 := hcontrol
      exact .hex (hex4?_control b.toNat hlt) hlt
    · rename_i hcontrol
      refine .plain ?_ ?_ hcontrol
      · rintro rfl
        cases hnone
      · rintro rfl
        cases hnone

/-! ## Finding the end -/

theorem scan_written {w : Bytes} (h : Written b w) (rest : Bytes) :
    scan (w ++ rest) = (scan rest).map fun r => (w ++ r.1, r.2) := by
  cases h with
  | plain hquote hbackslash hcontrol =>
    rw [List.singleton_append, scan.eq_def]
    simp only [hquote, hbackslash, hcontrol, if_false]
    rfl
  | @short letter hletter hu hslash hfind =>
    rw [List.cons_append, List.singleton_append, scan.eq_def]
    simp [backslash, quote, hletter, hu]
  | hex hhex hlt =>
    simp [scan, backslash, quote, hhex]

/-- The raw form of a text ends at the closing quote. -/
theorem scan_raw (s : String) (rest : Bytes) :
    scan (raw s ++ quote :: rest) = some (raw s, rest) := by
  rw [raw]
  induction FsGateway.Text.encode s with
  | nil =>
    rw [List.flatMap_nil, List.nil_append, scan.eq_def]
    rfl
  | cons b bs ih =>
    rw [List.flatMap_cons, List.append_assoc, scan_written (escape_written b), ih]
    rfl

/-! ## The text of a raw form -/

theorem unescape_written {w : Bytes} (h : Written b w) (rest : Bytes) :
    unescape (w ++ rest) = (unescape rest).map (b :: ·) := by
  cases h with
  | plain hquote hbackslash hcontrol =>
    rw [List.singleton_append, unescape.eq_def]
    simp only [hbackslash, if_false]
  | @short letter hletter hu hslash hfind =>
    obtain ⟨form, hform, rfl⟩ := Option.map_eq_some_iff.mp hfind
    rw [List.cons_append, List.singleton_append, unescape.eq_def]
    simp [hu, hslash, hform]
  | hex hhex hlt =>
    have hlow : ¬ 0xDC00 ≤ b.toNat := by omega
    have hhigh : ¬ 0xD800 ≤ b.toNat := by omega
    have hpoint : codePoint b.toNat = [b] := by simpa using codePoint_control b.toNat hlt
    simp [unescape, hhex, hlow, hhigh, hpoint]

/-- The raw form of a text stands for the text. -/
theorem value?_raw (s : String) : value? (raw s) = some s := by
  have hbytes : ∀ bs : Bytes, unescape (bs.flatMap escape) = some bs := by
    intro bs
    induction bs with
    | nil => simp [unescape]
    | cons b bs ih =>
      rw [List.flatMap_cons, unescape_written (escape_written b), ih]
      rfl
  rw [value?, raw, hbytes, Option.bind_some, FsGateway.Text.decode_encode]

end FsGateway.Json.Text
