import FsGateway.Bytes
import FsGateway.Kernel.Timestamp
import FsGateway.Proofs.Checked

/-!
# Timestamps and words of 64 bits

Between a timestamp and its word stands the span to the epoch, which has no sign. Both conversions
can be taken in steps over numbers of limited width: a word has a magnitude, a magnitude is a span, a
timestamp is a span away from the epoch, and a number is a word or the negative of one. A step that
leaves its width has no result. None does, and these steps are the conversions.

* `ofNs?_eq_some`, `toNs?_eq_some`: every step of the conversions has a result.
* `toInt_toNs`: the word nearest to a timestamp.
* `conversion_saturates`: a word is got back, and a timestamp out of reach becomes the end of the
  words on its side.
-/

namespace FsGateway.Kernel

open Checked (below?)

/-! ## Words -/

theorem toInt_minValue : Int64.minValue.toInt = -9223372036854775808 := rfl

theorem toInt_maxValue : Int64.maxValue.toInt = 9223372036854775807 := rfl

/-- The magnitude of a word. The least word has one, though it is the negative of no word. -/
def magnitude (w : Int64) : UInt64 := UInt64.ofNat w.toInt.natAbs

/-- The least number that is too large for a word. -/
def wordLimit : Nat := 9223372036854775808

/-- The word of a number, unless it is too large. -/
def word? (n : Nat) : Option Int64 := (below? wordLimit n).map Int64.ofNat

/-- The negative of a word, unless that is too large for a word. -/
def negative? (w : Int64) : Option Int64 := if w = Int64.minValue then none else some (-w)

theorem word?_eq_some {n : Nat} (h : n < wordLimit) : word? n = some (Int64.ofNat n) := by
  rw [word?, Checked.below?_eq_some h, Option.map_some]

theorem word?_eq_none {n : Nat} (h : ¬ n < wordLimit) : word? n = none := by
  rw [word?, below?, if_neg h, Option.map_none]

theorem toNat_magnitude (w : Int64) : (magnitude w).toNat = w.toInt.natAbs := by
  have hlow := Int64.minValue_le_toInt w
  have hhigh := Int64.toInt_le w
  rw [toInt_minValue] at hlow
  rw [toInt_maxValue] at hhigh
  have hsize : UInt64.size = 18446744073709551616 := rfl
  exact UInt64.toNat_ofNat_of_lt (by omega)

/-! ## Spans -/

/-- A length of time: whole seconds, and the nanoseconds beyond them. -/
structure Span where
  seconds : UInt64
  nanos : UInt32
  nanos_lt : nanos.toNat < Timestamp.nanosPerSecond

namespace Span

/-- The span of a number of nanoseconds. -/
def ofNanos (n : UInt64) : Span where
  seconds := n / 1000000000
  nanos := (n % 1000000000).toUInt32
  nanos_lt := by
    have hrest : (n % 1000000000).toNat < 1000000000 := Nat.mod_lt n.toNat (by decide)
    rw [UInt64.toNat_toUInt32, Nat.mod_eq_of_lt (by omega)]
    exact hrest

/-- The number of nanoseconds of a span, in a word of 128 bits. -/
def inNanos? (s : Span) : Option Nat := do
  let whole ← below? (wordCount 16) (s.seconds.toNat * Timestamp.nanosPerSecond)
  below? (wordCount 16) (whole + s.nanos.toNat)

theorem inNanos?_eq_some (s : Span) :
    s.inNanos? = some (s.seconds.toNat * Timestamp.nanosPerSecond + s.nanos.toNat) := by
  have hseconds : s.seconds.toNat < 18446744073709551616 := s.seconds.toNat_lt
  have hnanos : s.nanos.toNat < 1000000000 := s.nanos_lt
  have hcount : wordCount 16 = 340282366920938463463374607431768211456 := by simp [wordCount]
  rw [inNanos?, Timestamp.nanosPerSecond, hcount, Checked.below?_eq_some (by omega),
    Option.bind_eq_bind, Option.bind_some, Checked.below?_eq_some (by omega)]

/-- The span of a number of nanoseconds has all of them. -/
theorem total_ofNanos (n : UInt64) :
    (ofNanos n).seconds.toNat * Timestamp.nanosPerSecond + (ofNanos n).nanos.toNat = n.toNat := by
  have hseconds : (ofNanos n).seconds.toNat = n.toNat / Timestamp.nanosPerSecond :=
    UInt64.toNat_div n 1000000000
  have hnanos : (ofNanos n).nanos.toNat = n.toNat % Timestamp.nanosPerSecond := by
    have hlt : n.toNat % 1000000000 < 1000000000 := Nat.mod_lt _ (by decide)
    rw [ofNanos, UInt64.toNat_toUInt32, UInt64.toNat_mod n 1000000000]
    exact Nat.mod_eq_of_lt (by change n.toNat % 1000000000 < _; omega)
  rw [hseconds, hnanos, Nat.div_add_mod']

end Span

/-! ## Timestamps in reach -/

namespace Timestamp

variable {t t' : Timestamp}

/-- The whole seconds of a timestamp, rounded down, fit in 64 bits with a sign. -/
def IsRepresentable (t : Timestamp) : Prop :=
  Int64.minValue.toInt ≤ t.sinceEpoch / nanosPerSecond ∧
    t.sinceEpoch / nanosPerSecond ≤ Int64.maxValue.toInt

instance (t : Timestamp) : Decidable t.IsRepresentable := inferInstanceAs (Decidable (_ ∧ _))

/-- The timestamp at a span from the epoch, to one of its sides, unless it is out of range. -/
def away? (before : Bool) (s : Span) : Option Timestamp :=
  let t := ofDistance before s.seconds.toNat s.nanos.toNat
  if t.IsRepresentable then some t else none

theorem nanos_lt (t : Timestamp) : t.nanos < nanosPerSecond := Nat.mod_lt _ (by decide)

theorem toNat_nanos (t : Timestamp) : (UInt32.ofNat t.nanos).toNat = t.nanos := by
  have hlt : t.nanos < 1000000000 := t.nanos_lt
  have hsize : UInt32.size = 4294967296 := rfl
  exact UInt32.toNat_ofNat_of_lt' (by omega)

/-- The span between a timestamp and the epoch. -/
def span? (t : Timestamp) : Option Span := do
  let seconds ← below? UInt64.size t.seconds
  pure ⟨.ofNat seconds, .ofNat t.nanos, t.toNat_nanos.symm ▸ t.nanos_lt⟩

/-! ## The conversions in steps -/

/-- The timestamp of a word. -/
def ofNs? (ns : Int64) : Option Timestamp := away? (ns < 0) (Span.ofNanos (magnitude ns))

/-- The word nearest to a timestamp. -/
def toNs? (t : Timestamp) : Option Int64 := do
  let s ← t.span?
  let n ← s.inNanos?
  if t.isBefore then
    match word? n with
    | some ns => negative? ns
    | none => some Int64.minValue
  else some ((word? n).getD Int64.maxValue)

theorem isRepresentable_ofNs (ns : Int64) : (ofNs ns).IsRepresentable := by
  have hlow := Int64.minValue_le_toInt ns
  have hhigh := Int64.toInt_le ns
  rw [toInt_minValue] at hlow
  rw [toInt_maxValue] at hhigh
  change -9223372036854775808 ≤ ns.toInt / 1000000000 ∧ ns.toInt / 1000000000 ≤ 9223372036854775807
  omega

theorem ofNs?_eq_some (ns : Int64) : ofNs? ns = some (ofNs ns) := by
  have htotal : ((Span.ofNanos (magnitude ns)).seconds.toNat : Int) * nanosPerSecond +
      (Span.ofNanos (magnitude ns)).nanos.toNat = ns.toInt.natAbs := by
    exact_mod_cast (Span.total_ofNanos (magnitude ns)).trans (toNat_magnitude ns)
  have htime : ofDistance (ns < 0) (Span.ofNanos (magnitude ns)).seconds.toNat
      (Span.ofNanos (magnitude ns)).nanos.toNat = ofNs ns := by
    have hside : decide (ns < 0) = decide (ns.toInt < 0) :=
      decide_eq_decide.mpr Int64.lt_iff_toInt_lt
    simp only [ofDistance, ofNs, htotal, hside, decide_eq_true_eq]
    congr 1
    split <;> omega
  rw [ofNs?, away?, htime]
  exact if_pos (isRepresentable_ofNs ns)

/-- The word nearest to a timestamp is its distance from the epoch, kept within the words. -/
theorem toInt_toNs (t : Timestamp) :
    t.toNs.toInt = max Int64.minValue.toInt (min t.sinceEpoch Int64.maxValue.toInt) := by
  have hlow := toInt_minValue
  have hhigh := toInt_maxValue
  rw [toNs]
  split
  · omega
  · split
    · omega
    · rw [Int64.toInt_ofInt_of_le (by omega) (by omega)]
      omega

/-- A representable timestamp has a span to the epoch, and that has all its nanoseconds. -/
theorem exists_span (ht : t.IsRepresentable) :
    ∃ s, t.span? = some s ∧ s.inNanos? = some t.sinceEpoch.natAbs := by
  obtain ⟨hlow, hhigh⟩ := ht
  change -9223372036854775808 ≤ t.sinceEpoch / 1000000000 at hlow
  change t.sinceEpoch / 1000000000 ≤ 9223372036854775807 at hhigh
  have hsize : UInt64.size = 18446744073709551616 := rfl
  have hseconds : t.seconds < UInt64.size := by
    change t.sinceEpoch.natAbs / 1000000000 < _
    omega
  refine ⟨_, by rw [span?, Checked.below?_eq_some hseconds]; rfl, ?_⟩
  rw [Span.inNanos?_eq_some, UInt64.toNat_ofNat_of_lt' hseconds, toNat_nanos]
  exact congrArg some (Nat.div_add_mod' _ _)

theorem toNs?_eq_some (ht : t.IsRepresentable) : t.toNs? = some t.toNs := by
  obtain ⟨s, hs, hn⟩ := exists_span ht
  have hlow := toInt_minValue
  have hhigh := toInt_maxValue
  have hlimit : wordLimit = 9223372036854775808 := rfl
  have hnearest := t.toInt_toNs
  have hword : ∀ ns : Int64, ns.toInt = t.toNs.toInt → some ns = some t.toNs :=
    fun ns h => congrArg some (Int64.toInt_inj.mp h)
  rw [toNs?, hs, Option.bind_eq_bind, Option.bind_some, hn, Option.bind_eq_bind, Option.bind_some]
  by_cases hfits : t.sinceEpoch.natAbs < wordLimit
  · have hmagnitude := Int64.toInt_ofNat_of_lt (n := t.sinceEpoch.natAbs) (by omega)
    rw [word?_eq_some hfits]
    by_cases hbefore : t.sinceEpoch < 0
    · have hleast : Int64.ofNat t.sinceEpoch.natAbs ≠ Int64.minValue := by
        intro heq
        rw [heq] at hmagnitude
        omega
      have hnegative := Int64.toInt_neg_ofNat_of_le (n := t.sinceEpoch.natAbs) (by omega)
      rw [isBefore, decide_eq_true hbefore, if_pos rfl]
      change negative? (Int64.ofNat t.sinceEpoch.natAbs) = some t.toNs
      rw [negative?, if_neg hleast]
      exact hword _ (by omega)
    · rw [isBefore, decide_eq_false hbefore, if_neg Bool.false_ne_true, Option.getD_some]
      exact hword _ (by omega)
  · rw [word?_eq_none hfits]
    by_cases hbefore : t.sinceEpoch < 0
    · rw [isBefore, decide_eq_true hbefore, if_pos rfl]
      exact hword _ (by omega)
    · rw [isBefore, decide_eq_false hbefore, if_neg Bool.false_ne_true, Option.getD_none]
      exact hword _ (by omega)

/-- A later timestamp has no earlier word. -/
theorem toNs_mono (h : t.sinceEpoch ≤ t'.sinceEpoch) : t.toNs ≤ t'.toNs := by
  rw [Int64.le_iff_toInt_le, toInt_toNs, toInt_toNs]
  omega

theorem toNs_ofNs (ns : Int64) : (ofNs ns).toNs = ns := by
  have hlow := Int64.minValue_le_toInt ns
  have hhigh := Int64.toInt_le ns
  have hnearest := (ofNs ns).toInt_toNs
  change _ = max _ (min ns.toInt _) at hnearest
  exact Int64.toInt_inj.mp (by omega)

/-- Every word is got back from its timestamp, the least one included. Every representable timestamp
has a word, which is its distance from the epoch kept within the words, and a later one has no earlier
word. No step of either conversion leaves its width. -/
theorem conversion_saturates :
    (∀ ns : Int64, ofNs? ns = some (ofNs ns) ∧ (ofNs ns).sinceEpoch = ns.toInt ∧
      (ofNs ns).IsRepresentable ∧ (ofNs ns).toNs? = some ns) ∧
    ∀ t : Timestamp, t.IsRepresentable →
      t.toNs? = some t.toNs ∧
      t.toNs.toInt = max Int64.minValue.toInt (min t.sinceEpoch Int64.maxValue.toInt) ∧
      ∀ t' : Timestamp, t'.IsRepresentable → t.sinceEpoch ≤ t'.sinceEpoch → t.toNs ≤ t'.toNs := by
  refine ⟨fun ns => ⟨ofNs?_eq_some ns, rfl, isRepresentable_ofNs ns, ?_⟩,
    fun t ht => ⟨toNs?_eq_some ht, t.toInt_toNs, fun t' _ hle => toNs_mono hle⟩⟩
  rw [toNs?_eq_some (isRepresentable_ofNs ns), toNs_ofNs]

/-- The earliest representable timestamp. -/
def earliest : Timestamp := ⟨-9223372036854775808000000000⟩

/-- The latest representable timestamp. -/
def latest : Timestamp := ⟨9223372036854775807999999999⟩

theorem conversion_saturates_ends : earliest.IsRepresentable ∧ latest.IsRepresentable ∧
    earliest.sinceEpoch ≤ latest.sinceEpoch ∧ earliest.toNs? = some Int64.minValue ∧
    latest.toNs? = some Int64.maxValue ∧ earliest.toNs ≤ latest.toNs ∧
    (ofNs Int64.minValue).toNs? = some Int64.minValue := by
  have hearliest : earliest.IsRepresentable := by decide
  have hlatest : latest.IsRepresentable := by decide
  have hle : earliest.sinceEpoch ≤ latest.sinceEpoch := by decide
  obtain ⟨hwords, htimes⟩ := conversion_saturates
  obtain ⟨hleast, -, hmono⟩ := htimes earliest hearliest
  exact ⟨hearliest, hlatest, hle, hleast, (htimes latest hlatest).1, hmono latest hlatest hle,
    (hwords Int64.minValue).2.2.2⟩

end Timestamp

end FsGateway.Kernel
