/-!
# Byte strings and little-endian words

Byte strings are lists of bytes. A word of `n` bytes is written with its least significant
byte first.

* `wordValue_wordBytes`: reading a written word gives the value back, reduced to the width.
* `wordBytes_wordValue`: writing the value of a byte string at its own length gives the byte
  string back.
-/

namespace FsGateway

/-- A byte string. -/
abbrev Bytes := List UInt8

/-! ## Words -/

/-- The low `n` bytes of `v`, least significant first. -/
def wordBytes : (n v : Nat) → Bytes
  | 0, _ => []
  | n + 1, v => UInt8.ofNat (v % 256) :: wordBytes n (v / 256)

/-- The number spelled by a byte string, least significant byte first. -/
def wordValue : Bytes → Nat
  | [] => 0
  | b :: bs => b.toNat + 256 * wordValue bs

/-- How many numbers have a word of `n` bytes. -/
def wordCount : (n : Nat) → Nat
  | 0 => 1
  | n + 1 => 256 * wordCount n

@[simp] theorem length_wordBytes (n v : Nat) : (wordBytes n v).length = n := by
  induction n generalizing v with
  | zero => rfl
  | succ n ih => simp [wordBytes, ih]

theorem wordValue_wordBytes (n v : Nat) : wordValue (wordBytes n v) = v % wordCount n := by
  induction n generalizing v with
  | zero => simp [wordBytes, wordValue, wordCount, Nat.mod_one]
  | succ n ih =>
    have hbyte : (UInt8.ofNat (v % 256)).toNat = v % 256 := by simp
    rw [wordBytes, wordValue, ih, hbyte, wordCount, Nat.mod_mul]

theorem wordValue_lt (bs : Bytes) : wordValue bs < wordCount bs.length := by
  induction bs with
  | nil => simp [wordValue, wordCount]
  | cons b bs ih =>
    have hb : b.toNat < 256 := b.toNat_lt
    rw [wordValue, List.length_cons, wordCount]
    omega

theorem wordBytes_wordValue (bs : Bytes) : wordBytes bs.length (wordValue bs) = bs := by
  induction bs with
  | nil => rfl
  | cons b bs ih =>
    have hb : b.toNat < 256 := b.toNat_lt
    have hdiv : (b.toNat + 256 * wordValue bs) / 256 = wordValue bs := by omega
    have hmod : (b.toNat + 256 * wordValue bs) % 256 = b.toNat := by omega
    rw [wordValue, List.length_cons, wordBytes, hdiv, hmod, ih]
    simp

/-! ## Signed words -/

/-- The signed 32-bit integer with the low 32 bits of `v`. -/
def signed32 (v : Nat) : Int32 := Int32.ofNat v

/-- The signed 64-bit integer with the low 64 bits of `v`. -/
def signed64 (v : Nat) : Int64 := Int64.ofNat v

end FsGateway
