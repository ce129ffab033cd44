import FsGateway.Bytes

/-!
# Text as UTF-8 bytes

* `decode_encode`: the bytes of a text decode to the text.
* `encode_of_decode`: bytes that decode are the bytes of the text they decode to, so a byte
  string is valid in at most one way.
-/

namespace FsGateway.Text

/-- The UTF-8 bytes of a text. -/
def encode (s : String) : Bytes := s.toByteArray.data.toList

/-- The text whose UTF-8 bytes are `b`, if there is one. -/
def decode? (b : Bytes) : Option String := String.fromUTF8? ⟨b.toArray⟩

@[simp] theorem decode_encode (s : String) : decode? (encode s) = some s := by
  have h : (⟨(encode s).toArray⟩ : ByteArray) = s.toByteArray := by simp [encode]
  rw [decode?, h, String.fromUTF8?, dif_pos s.isValidUTF8]
  rfl

theorem encode_of_decode {b : Bytes} {s : String} (h : decode? b = some s) : encode s = b := by
  unfold decode? String.fromUTF8? at h
  split at h
  · cases h
    simp [encode, String.fromUTF8]
  · cases h

theorem decode_eq_some_iff {b : Bytes} {s : String} : decode? b = some s ↔ b = encode s :=
  ⟨fun h => (encode_of_decode h).symm, fun h => h ▸ decode_encode s⟩

theorem encode_injective {s t : String} (h : encode s = encode t) : s = t := by
  have := decode_encode s
  rw [h, decode_encode] at this
  exact (Option.some.inj this).symm

/-- The text of bytes that are known to be ASCII, or the empty text. -/
def decodeD (b : Bytes) : String := (decode? b).getD ""

/-! ## Lossy decoding -/

/-- How many bytes a sequence starting with `lead` has, and the range of its second byte.
Surrogates, overlong forms and values past the last code point are excluded by that range. -/
def sequenceForm (lead : UInt8) : Option (Nat × UInt8 × UInt8) :=
  if lead < 0x80 then some (1, 0, 0)
  else if 0xC2 ≤ lead ∧ lead ≤ 0xDF then some (2, 0x80, 0xBF)
  else if lead = 0xE0 then some (3, 0xA0, 0xBF)
  else if lead = 0xED then some (3, 0x80, 0x9F)
  else if 0xE1 ≤ lead ∧ lead ≤ 0xEF then some (3, 0x80, 0xBF)
  else if lead = 0xF0 then some (4, 0x90, 0xBF)
  else if 0xF1 ≤ lead ∧ lead ≤ 0xF3 then some (4, 0x80, 0xBF)
  else if lead = 0xF4 then some (4, 0x80, 0x8F)
  else none

/-- Whether `b` continues a sequence after its second byte. -/
def isContinuation (b : UInt8) : Bool := 0x80 ≤ b && b ≤ 0xBF

/-- How many bytes at the start of `rest`, which follow a lead byte, belong to its sequence. -/
def continuationCount (form : Nat × UInt8 × UInt8) (rest : Bytes) : Nat :=
  match form.1, rest with
  | 0, _ | 1, _ | _, [] => 0
  | n + 2, b :: rest =>
    if form.2.1 ≤ b ∧ b ≤ form.2.2 then 1 + ((rest.take n).takeWhile isContinuation).length else 0

/-- The bytes of the replacement character. -/
def replacement : Bytes := [0xEF, 0xBF, 0xBD]

/-- Well-formed sequences are kept; each longest start of a well-formed sequence that breaks
off, and each byte that starts none, becomes one replacement character. -/
def repairFrom : (fuel : Nat) → Bytes → Bytes
  | 0, _ => []
  | _, [] => []
  | fuel + 1, lead :: rest =>
    match sequenceForm lead with
    | none => replacement ++ repairFrom fuel rest
    | some form =>
      let n := continuationCount form rest
      if n + 1 = form.1 then lead :: rest.take n ++ repairFrom fuel (rest.drop n)
      else replacement ++ repairFrom fuel (rest.drop n)

/-- The text of a byte string, with replacement characters for what is not valid. -/
def decodeLossy (b : Bytes) : String :=
  match decode? b with
  | some s => s
  | none => decodeD (repairFrom b.length b)

end FsGateway.Text
