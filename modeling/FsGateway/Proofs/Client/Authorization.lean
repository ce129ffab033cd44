import FsGateway.Proofs.Client.Traces

/-!
# Reading a credential back

A header tells the scheme and, behind one space, the user, the group and the process in base 64. The
twelve bytes of a credential fill four groups of characters, so there is no padding, and they are got
back by the decoder.

* `Base64.value_eq_some_iff`: the value of a character is its place among the 64.
* `Base64.decode?_encode`, `Base64.Spells.bytes_unique`: base 64 is decoded to the bytes that were
  encoded, the only ones that it spells.
* `Base64.length_encode`, `Base64.mem_alphabet_encode`: what the characters are.
* `Credential.ofBytes?_bytes`: three little-endian words are read back.
* `authorization_injective`, `authorization_reads_back`: a credential is known from its header.
-/

namespace FsGateway.Client

/-! ## Base 64 -/

namespace Base64

/-- The characters of six bits, in the order of their values. -/
def alphabet : List Char :=
  "ABCDEFGHIJKLMNOPQRSTUVWXYZabcdefghijklmnopqrstuvwxyz0123456789+/".toList

/-- The number that characters spell, each of them by its place among the 64. -/
def number? (cs : List Char) : Option Nat :=
  cs.foldlM (fun n c => (alphabet.idxOf? c).map fun i => n * 64 + i) 0

/-- The bytes of characters, three for each four characters. Equality signs stand for characters that
are missing at the end, and bits that are left over there must be zero. -/
def decode? : List Char → Option Bytes
  | [] => some []
  | [a, b, '=', '='] => do
    let n ← number? [a, b]
    if n % 16 = 0 then some [UInt8.ofNat (n / 16)] else none
  | [a, b, c, '='] => do
    let n ← number? [a, b, c]
    if n % 4 = 0 then some [UInt8.ofNat (n / 1024), UInt8.ofNat (n / 4 % 256)] else none
  | a :: b :: c :: d :: rest => do
    let n ← number? [a, b, c, d]
    let bytes ← decode? rest
    some (UInt8.ofNat (n / 65536) :: UInt8.ofNat (n / 256 % 256) :: UInt8.ofNat (n % 256) :: bytes)
  | _ => none

/-- The code point of the character of six bits. -/
def codeOf (n : Nat) : Nat :=
  if n < 26 then 0x41 + n
  else if n < 52 then 0x61 + (n - 26)
  else if n < 62 then 0x30 + (n - 52)
  else if n = 62 then 0x2B else 0x2F

/-- The value of a character is its place in the alphabet. -/
theorem value_eq_some_iff {c : Char} {d : Nat} : value? c = some d ↔ alphabet[d]? = some c := by
  have hlength : alphabet.length = 64 := by decide
  have hall : ∀ d ∈ List.range 64, alphabet[d]?.map Char.toNat = some (codeOf d) := by decide
  have hcapital : 'Z'.toNat = 90 ∧ 'A'.toNat = 65 := ⟨rfl, rfl⟩
  have hsmall : 'z'.toNat = 122 ∧ 'a'.toNat = 97 := ⟨rfl, rfl⟩
  have hnine : '9'.toNat = 57 ∧ '0'.toNat = 48 := ⟨rfl, rfl⟩
  have hplus : c = '+' ↔ c.toNat = 43 := Char.toNat_inj.symm
  have hslash : c = '/' ↔ c.toNat = 47 := Char.toNat_inj.symm
  rw [getElem?_eq_some_iff_code hlength fun d hd => hall d (List.mem_range.mpr hd), value?, codeOf]
  simp only [Text.le_iff_toNat_le, hplus, hslash]
  split_ifs <;> simp only [Option.some.injEq, false_iff] <;> omega

theorem idxOf?_alphabet (c : Char) : alphabet.idxOf? c = value? c := by
  have hnodup : alphabet.Nodup := by decide
  refine Option.ext fun d => ?_
  rw [value_eq_some_iff, List.idxOf?_eq_some_iff, List.getElem?_eq_some_iff]
  constructor
  · intro h
    obtain ⟨hlt, hd, -⟩ := h
    exact ⟨hlt, hd⟩
  · intro h
    obtain ⟨hlt, hd⟩ := h
    refine ⟨hlt, hd, fun j hj heq => ?_⟩
    have hsame := hnodup.getElem_inj_iff.mp (heq.trans hd.symm)
    omega

theorem value_padding : value? '=' = none := by decide

theorem value_ne_padding {c : Char} {n : Nat} (h : value? c = some n) : c ≠ '=' := by
  intro heq
  rw [heq, value_padding] at h
  cases h

/-- Characters are decoded to the bytes that they spell. -/
theorem Spells.decode?_eq {cs : List Char} {bs : Bytes} (h : Spells cs bs) :
    decode? cs = some bs := by
  induction h with
  | nil => rfl
  | @one a b i j x ha hb hn =>
    obtain ⟨n, hnumber⟩ : ∃ n, i * 64 + j = n := ⟨_, rfl⟩
    have hspelled : number? [a, b] = some n := by simp [number?, idxOf?_alphabet, ha, hb, hnumber]
    have hzero : n % 16 = 0 := by omega
    have hfirst : n / 16 = x.toNat := by omega
    rw [decode?, hspelled]
    show (if n % 16 = 0 then some [UInt8.ofNat (n / 16)] else none) = some [x]
    rw [if_pos hzero, hfirst, UInt8.ofNat_toNat]
  | @two a b c i j k x y ha hb hc hn =>
    have hlast := y.toNat_lt
    obtain ⟨n, hnumber⟩ : ∃ n, (i * 64 + j) * 64 + k = n := ⟨_, rfl⟩
    have hspelled : number? [a, b, c] = some n := by
      simp [number?, idxOf?_alphabet, ha, hb, hc, hnumber]
    have hzero : n % 4 = 0 := by omega
    have hfirst : n / 1024 = x.toNat := by omega
    have hsecond : n / 4 % 256 = y.toNat := by omega
    rw [decode?.eq_3 a b c (value_ne_padding hc), hspelled]
    show (if n % 4 = 0 then some [UInt8.ofNat (n / 1024), UInt8.ofNat (n / 4 % 256)] else none) =
      some [x, y]
    rw [if_pos hzero, hfirst, hsecond, UInt8.ofNat_toNat, UInt8.ofNat_toNat]
  | @three a b c d i j k l x y z cs bs ha hb hc hd hn _ ih =>
    have hmiddle := y.toNat_lt
    have hlast := z.toNat_lt
    obtain ⟨n, hnumber⟩ : ∃ n, ((i * 64 + j) * 64 + k) * 64 + l = n := ⟨_, rfl⟩
    have hspelled : number? [a, b, c, d] = some n := by
      simp [number?, idxOf?_alphabet, ha, hb, hc, hd, hnumber]
    have hfirst : n / 65536 = x.toNat := by omega
    have hsecond : n / 256 % 256 = y.toNat := by omega
    have hthird : n % 256 = z.toNat := by omega
    -- the last character is no padding, so the group is not taken for a shorter one
    have hfull := value_ne_padding hd
    rw [decode?.eq_4 a b c d cs (fun _ h _ => hfull h) (fun h _ => hfull h), hspelled, ih]
    show some (UInt8.ofNat (n / 65536) :: UInt8.ofNat (n / 256 % 256) :: UInt8.ofNat (n % 256) :: bs) =
      some (x :: y :: z :: bs)
    rw [hfirst, hsecond, hthird, UInt8.ofNat_toNat, UInt8.ofNat_toNat, UInt8.ofNat_toNat]

/-- Characters spell one string of bytes at most. -/
theorem Spells.bytes_unique {cs : List Char} {bs bs' : Bytes} (h : Spells cs bs)
    (h' : Spells cs bs') : bs = bs' :=
  Option.some.inj (h.decode?_eq.symm.trans h'.decode?_eq)

/-- Base 64 is decoded to the bytes that were encoded. -/
theorem decode?_encode (bs : Bytes) : decode? (encode bs) = some bs :=
  (spells_encode bs).decode?_eq

theorem length_encode (bs : Bytes) : (encode bs).length = (bs.length + 2) / 3 * 4 := by
  induction bs using encode.induct with
  | case1 x y z rest ih =>
    rw [encode]
    simp only [List.length_cons, ih]
    omega
  | case2 x y => simp [encode]
  | case3 x => simp [encode]
  | case4 => rfl

theorem digit_mem_alphabet {n : Nat} (h : n < 64) : digit n ∈ alphabet :=
  List.mem_of_getElem? (value_eq_some_iff.mp (value_digit h))

/-- Bytes that fill their groups are encoded without padding. -/
theorem mem_alphabet_encode {bs : Bytes} (h : 3 ∣ bs.length) : ∀ c ∈ encode bs, c ∈ alphabet := by
  induction bs using encode.induct with
  | case1 x y z rest ih =>
    have hx := x.toNat_lt
    have hy := y.toNat_lt
    have hz := z.toNat_lt
    have hrest : 3 ∣ rest.length := by
      simp only [List.length_cons] at h
      omega
    simp only [encode, List.forall_mem_cons]
    refine ⟨digit_mem_alphabet ?_, digit_mem_alphabet ?_, digit_mem_alphabet ?_,
      digit_mem_alphabet ?_, ih hrest⟩ <;> omega
  | case2 x y =>
    simp only [List.length_cons, List.length_nil] at h
    omega
  | case3 x =>
    simp only [List.length_cons, List.length_nil] at h
    omega
  | case4 => simp [encode]

end Base64

/-! ## Credentials -/

/-- A word of four bytes, least significant first, and the bytes after it. -/
def takeWord? (b : Bytes) : Option (UInt32 × Bytes) :=
  if 4 ≤ b.length then some (UInt32.ofNat (wordValue (b.take 4)), b.drop 4) else none

/-- The credential that is made up of three words, and of nothing else. -/
def Credential.ofBytes? (b : Bytes) : Option Credential := do
  let (uid, b) ← takeWord? b
  let (gid, b) ← takeWord? b
  let (pid, b) ← takeWord? b
  if b.isEmpty then some ⟨uid, gid, pid⟩ else none

theorem takeWord?_append (n : UInt32) (rest : Bytes) :
    takeWord? (wordBytes 4 n.toNat ++ rest) = some (n, rest) := by
  have hlength : (wordBytes 4 n.toNat).length = 4 := length_wordBytes 4 n.toNat
  have hvalue : wordValue (wordBytes 4 n.toNat) = n.toNat := by
    rw [wordValue_wordBytes]
    exact Nat.mod_eq_of_lt n.toNat_lt
  have hle : 4 ≤ (wordBytes 4 n.toNat ++ rest).length := by
    rw [List.length_append, hlength]
    exact Nat.le_add_right 4 _
  rw [takeWord?, if_pos hle, List.take_left' hlength, List.drop_left' hlength, hvalue,
    UInt32.ofNat_toNat]

/-- A credential is got back from its bytes. -/
theorem Credential.ofBytes?_bytes (c : Credential) : ofBytes? c.bytes = some c := by
  have hlast := takeWord?_append c.pid []
  rw [List.append_nil] at hlast
  simp [ofBytes?, bytes, List.append_assoc, takeWord?_append, hlast]

/-- A credential is got back from its bytes in base 64. -/
theorem Credential.ofBytes?_decode? (c : Credential) :
    (Base64.decode? (Base64.encode c.bytes)).bind ofBytes? = some c := by
  rw [Base64.decode?_encode]
  exact c.ofBytes?_bytes

/-- A credential is known from its header. -/
theorem authorization_injective {scheme : String} {c c' : Credential}
    (h : c.authorization scheme = c'.authorization scheme) : c = c' := by
  have hchars : Base64.encode c.bytes = Base64.encode c'.bytes := by
    simpa [Credential.authorization, ← String.toList_inj] using h
  have hread := c.ofBytes?_decode?
  rw [hchars, c'.ofBytes?_decode?] at hread
  exact (Option.some.inj hread).symm

/-- A header is the scheme, a space and sixteen characters of base 64 without padding. They are decoded
to the user, the group and the process, so under one scheme there is one credential for a header. -/
theorem authorization_reads_back (scheme : String) (c : Credential) :
    ∃ cs : List Char, c.authorization scheme = scheme ++ " " ++ String.ofList cs ∧
      cs.length = 16 ∧ (∀ ch ∈ cs, ch ∈ Base64.alphabet) ∧
      (Base64.decode? cs).bind Credential.ofBytes? = some c ∧
      ∀ c' : Credential, c'.authorization scheme = c.authorization scheme ↔ c' = c := by
  have hlength : c.bytes.length = 12 := by simp [Credential.bytes]
  refine ⟨Base64.encode c.bytes, rfl, ?_, ?_, c.ofBytes?_decode?,
    fun c' => ⟨authorization_injective, ?_⟩⟩
  · rw [Base64.length_encode, hlength]
  · exact Base64.mem_alphabet_encode (hlength ▸ ⟨4, rfl⟩)
  · intro h
    rw [h]

theorem authorization_reads_back_sample :
    Credential.authorization "Test" ⟨1, 2, 3⟩ = "Test AQAAAAIAAAADAAAA" ∧
      'Q' ∈ "AQAAAAIAAAADAAAA".toList ∧ 'Q' ∈ Base64.alphabet ∧
      (Base64.decode? "AQAAAAIAAAADAAAA".toList).bind Credential.ofBytes? = some ⟨1, 2, 3⟩ := by
  obtain ⟨cs, htext, -, halphabet, hdecode, -⟩ := authorization_reads_back "Test" ⟨1, 2, 3⟩
  have hencode : Base64.encode (Credential.bytes ⟨1, 2, 3⟩) = cs := by
    simpa [Credential.authorization, ← String.toList_inj] using htext
  have hcs : cs = "AQAAAAIAAAADAAAA".toList := by
    rw [← hencode]
    decide
  rw [hcs] at halphabet hdecode
  exact ⟨by decide, by decide, halphabet 'Q' (by decide), hdecode⟩

end FsGateway.Client
