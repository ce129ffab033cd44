import FsGateway.Json.Number
import FsGateway.Proofs.Json.Grammar
import Mathlib.Data.List.Induction

/-!
# Whole numbers are read as they are written

A whole number is written with its decimal digits, without zeros in front.

* `scanNumber_intLexeme`: the spelling of a number is found up to the delimiter after it.
* `integer?_intLexeme`: the spelling of a number spells the number.
* `integer?_eq_some_iff`: no other number of a document spells it.
-/

namespace FsGateway.Json

/-- What can follow a value within a document, or its end. -/
def Delimited : Bytes → Prop
  | [] => True
  | b :: _ => b = 0x2C ∨ b = 0x5D ∨ b = 0x7D

namespace Number

open Node (isDigit scanDigits scanWhole scanFraction scanExponent scanNumber)

/-- A decimal digit as it is written. -/
def digitByte (d : Nat) : UInt8 := UInt8.ofNat (Nat.digitChar d).toNat

theorem digitByte_facts (d : Nat) (h : d < 10) :
    isDigit (digitByte d) = true ∧ digit (digitByte d) = d ∧ (digitByte d = 0x30 ↔ d = 0) := by
  decide +revert

theorem natLexeme_of_lt {n : Nat} (h : n < 10) : natLexeme n = [digitByte n] := by
  rw [natLexeme, Nat.toDigits_of_lt_base h]
  rfl

theorem natLexeme_of_le {n : Nat} (h : 10 ≤ n) :
    natLexeme n = natLexeme (n / 10) ++ [digitByte (n % 10)] := by
  rw [natLexeme, Nat.toDigits_of_base_le (by omega) h, List.map_append]
  rfl

/-- Induction over the digits of a number, the last one last. -/
theorem digits_induction {P : Nat → Prop} (one : ∀ n, n < 10 → P n)
    (more : ∀ n, 10 ≤ n → P (n / 10) → P n) (n : Nat) : P n := by
  induction n using Nat.strongRecOn with
  | ind n ih =>
    by_cases h : n < 10
    · exact one n h
    · exact more n (by omega) (ih (n / 10) (by omega))

theorem natLexeme_digits (n : Nat) : ∀ b ∈ natLexeme n, isDigit b = true := by
  induction n using digits_induction with
  | one n h =>
    rw [natLexeme_of_lt h]
    simpa using (digitByte_facts n h).1
  | more n h ih =>
    rw [natLexeme_of_le h]
    intro b hb
    rcases List.mem_append.mp hb with hb | hb
    · exact ih b hb
    · rw [List.mem_singleton.mp hb]
      exact (digitByte_facts (n % 10) (by omega)).1

theorem digitsValue_concat (ds : Bytes) (b : UInt8) :
    digitsValue (ds ++ [b]) = 10 * digitsValue ds + digit b := by
  simp [digitsValue]

theorem digitsValue_natLexeme (n : Nat) : digitsValue (natLexeme n) = n := by
  induction n using digits_induction with
  | one n h =>
    rw [natLexeme_of_lt h]
    simpa [digitsValue] using (digitByte_facts n h).2.1
  | more n h ih =>
    rw [natLexeme_of_le h, digitsValue_concat, ih, (digitByte_facts (n % 10) (by omega)).2.1]
    omega

/-- Only zero is written with a zero in front. -/
theorem natLexeme_head (n : Nat) :
    ∃ b ds, natLexeme n = b :: ds ∧ isDigit b = true ∧ (b = 0x30 → ds = []) := by
  have hhead : ∃ b ds, natLexeme n = b :: ds ∧ (b = 0x30 → n = 0) := by
    induction n using digits_induction with
    | one n h =>
      refine ⟨digitByte n, [], natLexeme_of_lt h, (digitByte_facts n h).2.2.mp⟩
    | more n h ih =>
      obtain ⟨b, ds, hb, hzero⟩ := ih
      refine ⟨b, ds ++ [digitByte (n % 10)], ?_, fun hb => ?_⟩
      · rw [natLexeme_of_le h, hb]
        rfl
      · have := hzero hb
        omega
  obtain ⟨b, ds, hb, hzero⟩ := hhead
  refine ⟨b, ds, hb, natLexeme_digits n b (hb ▸ List.mem_cons_self), fun h => ?_⟩
  rw [hzero h] at hb
  cases hb
  rfl

/-! ## Finding the end -/

theorem scanDigits_append {ds rest : Bytes} (hds : ∀ b ∈ ds, isDigit b = true) (hne : ds ≠ [])
    (hrest : Delimited rest) : scanDigits (ds ++ rest) = some (ds, rest) := by
  have hstop : rest.takeWhile isDigit = [] ∧ rest.dropWhile isDigit = rest := by
    cases rest with
    | nil => exact ⟨rfl, rfl⟩
    | cons b tail =>
      rcases hrest with rfl | rfl | rfl <;> exact ⟨rfl, rfl⟩
  have htake : (ds ++ rest).takeWhile isDigit = ds := by
    rw [List.takeWhile_append_of_pos hds, hstop.1, List.append_nil]
  have hdrop : (ds ++ rest).dropWhile isDigit = rest := by
    rw [List.dropWhile_append_of_pos hds, hstop.2]
  rw [scanDigits, htake, hdrop]
  simp [hne]

theorem scanFraction_of_delimited {rest : Bytes} (h : Delimited rest) :
    scanFraction rest = some ([], rest) := by
  cases rest with
  | nil => rfl
  | cons b tail => rcases h with rfl | rfl | rfl <;> rfl

theorem scanExponent_of_delimited {rest : Bytes} (h : Delimited rest) :
    scanExponent rest = some ([], rest) := by
  cases rest with
  | nil => rfl
  | cons b tail => rcases h with rfl | rfl | rfl <;> rfl

theorem scanWhole_natLexeme (n : Nat) {rest : Bytes} (hrest : Delimited rest) :
    scanWhole (natLexeme n ++ rest) = some (natLexeme n, rest) := by
  obtain ⟨b, ds, hb, -, hzero⟩ := natLexeme_head n
  have hscan : scanDigits (natLexeme n ++ rest) = some (natLexeme n, rest) :=
    scanDigits_append (natLexeme_digits n) (by simp [hb]) hrest
  rw [scanWhole, hscan]
  split
  · rename_i c ds' rest' heq
    rw [hb] at heq
    cases heq
    cases hzero rfl
  · rfl

/-- The spelling of a number ends where something else follows. -/
theorem scanNumber_intLexeme (i : Int) {rest : Bytes} (hrest : Delimited rest) :
    scanNumber (intLexeme i ++ rest) = some (intLexeme i, rest) := by
  cases i with
  | ofNat n =>
    obtain ⟨b, ds, hb, hdigit, -⟩ := natLexeme_head n
    have hsign : b ≠ 0x2D := by
      rintro rfl
      cases hdigit
    have hwhole := scanWhole_natLexeme n hrest
    have hlexeme : intLexeme (.ofNat n) = b :: ds := hb
    rw [hb, List.cons_append] at hwhole
    rw [hlexeme, List.cons_append]
    unfold scanNumber
    simp [hsign, hwhole, scanFraction_of_delimited hrest, scanExponent_of_delimited hrest]
  | negSucc n =>
    have hwhole := scanWhole_natLexeme (n + 1) hrest
    simp [intLexeme, scanNumber, hwhole, scanFraction_of_delimited hrest,
      scanExponent_of_delimited hrest]

/-! ## The value of a spelling -/

theorem natLexeme_all (n : Nat) : (natLexeme n).all isDigit = true :=
  List.all_eq_true.mpr (natLexeme_digits n)

/-- The spelling of a number spells the number. -/
theorem integer?_intLexeme (i : Int) : integer? (intLexeme i) = some i := by
  cases i with
  | ofNat n =>
    obtain ⟨b, ds, hb, hdigit, -⟩ := natLexeme_head n
    have hsign : b ≠ 0x2D := by
      rintro rfl
      cases hdigit
    have hlexeme : intLexeme (.ofNat n) = b :: ds := hb
    have hall := natLexeme_all n
    have hvalue := digitsValue_natLexeme n
    rw [hb] at hall hvalue
    rw [hlexeme]
    unfold integer?
    simp [hsign, hall, hvalue]
  | negSucc n =>
    have hvalue := digitsValue_natLexeme (n + 1)
    simp only [intLexeme, integer?, natLexeme_all, hvalue]
    rfl

/-! ## Numbers of documents -/

theorem digit_spec {b : UInt8} (h : isDigit b = true) : digit b < 10 ∧ b.toNat = 0x30 + digit b := by
  obtain ⟨hlow, hhigh⟩ := (Bool.and_eq_true _ _).mp h
  have hlow' : 0x30 ≤ b.toNat := of_decide_eq_true hlow
  have hhigh' : b.toNat ≤ 0x39 := of_decide_eq_true hhigh
  unfold digit
  omega

theorem digitByte_digit {b : UInt8} (h : isDigit b = true) : digitByte (digit b) = b := by
  have hbyte : ∀ d < 10, (digitByte d).toNat = 0x30 + d := by decide
  obtain ⟨hlt, hb⟩ := digit_spec h
  exact UInt8.toNat_inj.mp ((hbyte _ hlt).trans hb.symm)

/-- Digits with no zero in front are those of their value. -/
theorem natLexeme_digitsValue {ds : Bytes} (h : Node.WholeDigits ds) :
    natLexeme (digitsValue ds) = ds := by
  induction ds using List.reverseRec with
  | nil => exact absurd rfl h.ne_nil
  | append_singleton ds d ih =>
    have hd := h.isDigit d (List.mem_append_right _ List.mem_cons_self)
    have hlt := (digit_spec hd).1
    rw [digitsValue_concat]
    by_cases hnil : ds = []
    · subst hnil
      have hvalue : 10 * digitsValue [] + digit d = digit d := Nat.zero_add _
      rw [hvalue, natLexeme_of_lt hlt, digitByte_digit hd]
      rfl
    · have hds : Node.WholeDigits ds := by
        refine ⟨⟨hnil, fun x hx => h.isDigit x (List.mem_append_left _ hx)⟩, fun tail htail => ?_⟩
        have hfull := h.noZero (tail ++ [d]) (by rw [htail, List.cons_append])
        simp at hfull
      have hlexeme := ih hds
      have hpos : digitsValue ds ≠ 0 := by
        intro hzero
        -- Zero is written with a zero in front, which cannot stand in front of `d`.
        rw [hzero] at hlexeme
        have hfull := h.noZero [d] (by rw [← hlexeme]; rfl)
        cases hfull
      have hdiv : (10 * digitsValue ds + digit d) / 10 = digitsValue ds := by omega
      have hmod : (10 * digitsValue ds + digit d) % 10 = digit d := by omega
      rw [natLexeme_of_le (by omega), hdiv, hmod, hlexeme, digitByte_digit hd]

/-- A number of digits alone has neither a fraction nor an exponent. -/
theorem tail_eq_nil {fraction exponent : Bytes} (hfraction : Node.Fraction fraction)
    (hexponent : Node.Exponent exponent) (h : (fraction ++ exponent).all isDigit = true) :
    fraction ++ exponent = [] := by
  have hhead : ∀ x tail, fraction ++ exponent = x :: tail → isDigit x = false :=
    hfraction.ends fun x tail hx => by
      have hends := hexponent.ends (show Node.EndsNumber [] from trivial) x tail
      rw [List.append_nil] at hends
      exact hends hx
  cases heq : fraction ++ exponent with
  | nil => rfl
  | cons x tail =>
    rw [heq, List.all_cons, hhead x tail heq] at h
    cases h

theorem integer?_unsigned {b : Bytes} (h : ∀ tail, b ≠ 0x2D :: tail) :
    integer? b = if b.all isDigit then some (digitsValue b : Int) else none := by
  unfold integer?
  split
  · exact absurd rfl (h _)
  · rfl

theorem integer?_minus (b : Bytes) : integer? (0x2D :: b) =
    if b.all isDigit && digitsValue b ≠ 0 then some (-(digitsValue b : Int)) else none := rfl

/-- A number of a document is an integer only in the spelling of that integer. -/
theorem integer?_eq_some_iff {lexeme : Bytes} {i : Int} (h : Node.Numeral lexeme) :
    integer? lexeme = some i ↔ lexeme = intLexeme i := by
  constructor
  · intro hinteger
    obtain ⟨hsign, hwhole, hfraction, hexponent⟩ := h
    rename_i sign whole fraction exponent
    simp only [List.append_assoc] at hinteger ⊢
    have htail : ∀ b, b = whole ++ (fraction ++ exponent) → b.all isDigit = true → b = whole := by
      rintro b rfl hall
      rw [List.all_append, Bool.and_eq_true] at hall
      rw [tail_eq_nil hfraction hexponent hall.2, List.append_nil]
    generalize hb : whole ++ (fraction ++ exponent) = b at hinteger ⊢
    cases hsign with
    | none =>
      have hunsigned : ∀ tail, b ≠ 0x2D :: tail := by
        obtain ⟨d, ds, rfl⟩ := List.exists_cons_of_ne_nil hwhole.ne_nil
        rintro tail rfl
        cases hb
        cases hwhole.isDigit _ List.mem_cons_self
      rw [List.nil_append, integer?_unsigned hunsigned] at hinteger
      split at hinteger
      · rename_i hall
        cases hinteger
        obtain rfl := htail b hb.symm hall
        exact (natLexeme_digitsValue hwhole).symm
      · cases hinteger
    | minus =>
      rw [List.singleton_append] at hinteger ⊢
      rw [integer?_minus] at hinteger
      split at hinteger
      · rename_i hall
        obtain ⟨hall, hne⟩ := (Bool.and_eq_true _ _).mp hall
        cases hinteger
        obtain rfl := htail b hb.symm hall
        obtain ⟨n, hn⟩ := Nat.exists_eq_succ_of_ne_zero (of_decide_eq_true hne)
        have hlexeme := natLexeme_digitsValue hwhole
        rw [hn] at hlexeme ⊢
        exact congrArg (0x2D :: ·) hlexeme.symm
      · cases hinteger
  · rintro rfl
    exact integer?_intLexeme i

end Number

end FsGateway.Json
