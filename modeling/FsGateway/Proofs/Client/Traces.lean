import FsGateway.Proofs.Checked
import FsGateway.Proofs.Client.Credentials
import Mathlib.Data.List.Induction

/-!
# Trace tokens as numerals

A trace token is written as a numeral in base 36: its digits, the last one first, are put into a
buffer of thirteen bytes from its end, and the text is what has been filled. The numeral is the
shortest one in lowercase, and the only one of its length. Reading takes every numeral of either case
whose value fits in 64 bits, with zeros and one plus sign in front.

* `IsNumeral`: what characters are a numeral, and its value.
* `fill?_eq_some`: the digits fit in the buffer.
* `eq_or_longer_of_isNumeral`: the written numeral is the shortest.
* `trace_text_canonical`: what is written and what is read.
-/

namespace FsGateway.Client

open Checked (slice? put? less? Returns)

/-! ## Numerals in base 36 -/

/-- The digits in lowercase, each at its value. -/
def smallDigits : List Char := "0123456789abcdefghijklmnopqrstuvwxyz".toList

/-- The digits in uppercase, each at its value. -/
def capitalDigits : List Char := "0123456789ABCDEFGHIJKLMNOPQRSTUVWXYZ".toList

/-- A character is a digit in lowercase with a value. -/
def IsSmallDigit (c : Char) (d : Nat) : Prop := smallDigits[d]? = some c

/-- A character is a digit of either case with a value. -/
def IsDigit (c : Char) (d : Nat) : Prop := smallDigits[d]? = some c ∨ capitalDigits[d]? = some c

/-- Characters are a numeral in base 36, of at least one digit, with a value. -/
inductive IsNumeral (digit : Char → Nat → Prop) : List Char → Nat → Prop
  | one {c : Char} {d : Nat} : digit c d → IsNumeral digit [c] d
  | more {cs : List Char} {n : Nat} {c : Char} {d : Nat} : IsNumeral digit cs n → digit c d →
      IsNumeral digit (cs ++ [c]) (n * 36 + d)

variable {c : Char} {cs : List Char} {n d : Nat}

/-- What stands in a list of characters, by code points. -/
theorem getElem?_eq_some_iff_code {chars : List Char} {k : Nat} {code : Nat → Nat}
    (hlength : chars.length = k) (hcode : ∀ d < k, chars[d]?.map Char.toNat = some (code d)) :
    chars[d]? = some c ↔ d < k ∧ c.toNat = code d := by
  constructor
  · intro h
    have hlt : d < k := hlength ▸ (List.getElem?_eq_some_iff.mp h).1
    have hd := hcode d hlt
    rw [h, Option.map_some] at hd
    exact ⟨hlt, Option.some.inj hd⟩
  · rintro ⟨hlt, hc⟩
    obtain ⟨x, hx, hxcode⟩ := Option.map_eq_some_iff.mp (hcode d hlt)
    rw [hx, Char.toNat_inj.mp (hxcode.trans hc.symm)]

/-- The code point of a digit among the decimal ones and the letters from one on. -/
def codeFrom (letters d : Nat) : Nat := if d < 10 then 0x30 + d else letters + (d - 10)

theorem smallDigits_eq_some_iff : smallDigits[d]? = some c ↔ d < 36 ∧ c.toNat = codeFrom 0x61 d := by
  have hlength : smallDigits.length = 36 := by decide
  have hall : ∀ d < 36, smallDigits[d]?.map Char.toNat = some (codeFrom 0x61 d) := by decide
  exact getElem?_eq_some_iff_code hlength hall

theorem capitalDigits_eq_some_iff :
    capitalDigits[d]? = some c ↔ d < 36 ∧ c.toNat = codeFrom 0x41 d := by
  have hlength : capitalDigits.length = 36 := by decide
  have hall : ∀ d < 36, capitalDigits[d]?.map Char.toNat = some (codeFrom 0x41 d) := by decide
  exact getElem?_eq_some_iff_code hlength hall

/-- The values of digits are those that reading finds. -/
theorem traceDigit?_eq_some_iff : traceDigit? c = some d ↔ IsDigit c d := by
  have hnine : '9'.toNat = 57 ∧ '0'.toNat = 48 := ⟨rfl, rfl⟩
  have hsmall : 'z'.toNat = 122 ∧ 'a'.toNat = 97 := ⟨rfl, rfl⟩
  have hcapital : 'Z'.toNat = 90 ∧ 'A'.toNat = 65 := ⟨rfl, rfl⟩
  rw [IsDigit, smallDigits_eq_some_iff, capitalDigits_eq_some_iff, codeFrom, codeFrom, traceDigit?]
  simp only [Text.le_iff_toNat_le]
  split
  · rw [Option.some.injEq]
    split <;> omega
  · split
    · rw [Option.some.injEq]
      split <;> omega
    · split
      · rw [Option.some.injEq]
        split <;> omega
      · simp only [reduceCtorEq, false_iff]
        split <;> omega

/-! ## Reading -/

theorem shiftIn_concat (ds : List Nat) (d : Nat) :
    shiftIn 0 (ds ++ [d]) = shiftIn 0 ds * 36 + d := by
  simp [shiftIn]

/-- A numeral has digits, and they make its value. -/
theorem isNumeral_iff : IsNumeral IsDigit cs n ↔
    cs ≠ [] ∧ ∃ ds, cs.map traceDigit? = ds.map some ∧ shiftIn 0 ds = n := by
  constructor
  · intro h
    induction h with
    | @one c d hd =>
      refine ⟨List.cons_ne_nil _ _, [d], ?_, Nat.zero_add d⟩
      rw [List.map_singleton, traceDigit?_eq_some_iff.mpr hd, List.map_singleton]
    | @more cs n c d hcs hd ih =>
      obtain ⟨-, ds, hds, rfl⟩ := ih
      refine ⟨by simp, ds ++ [d], ?_, shiftIn_concat ds d⟩
      rw [List.map_append, hds, List.map_singleton, traceDigit?_eq_some_iff.mpr hd,
        List.map_append, List.map_singleton]
  · rintro ⟨hne, ds, hds, rfl⟩
    induction cs using List.reverseRecOn generalizing ds with
    | nil => exact absurd rfl hne
    | append_singleton cs c ih =>
      rcases List.eq_nil_or_concat ds with rfl | ⟨ds, d, rfl⟩
      · simp at hds
      · rw [List.concat_eq_append] at hds ⊢
        rw [List.map_append, List.map_append, List.map_singleton, List.map_singleton] at hds
        obtain ⟨hrest, hlast⟩ := List.append_inj' hds rfl
        have hd : IsDigit c d := traceDigit?_eq_some_iff.mp (List.singleton_inj.mp hlast)
        by_cases hnil : cs = []
        · subst hnil
          cases List.map_eq_nil_iff.mp hrest.symm
          have hvalue : shiftIn 0 ([] ++ [d]) = d := Nat.zero_add d
          rw [hvalue]
          exact .one hd
        · rw [shiftIn_concat]
          exact .more (ih hnil ds hrest) hd

/-- A text is read with a value exactly where it is a numeral, perhaps behind a plus sign, whose
value fits in 64 bits. -/
theorem parseTrace_value_iff {s : String} {v : Nat} :
    (∃ t, parseTrace s = .ok t ∧ t.toNat = v) ↔
      (∃ cs, (s.toList = cs ∨ s.toList = '+' :: cs) ∧ IsNumeral IsDigit cs v) ∧ v < UInt64.size := by
  simp only [parseTrace_eq_ok_iff, IsTraceText, isNumeral_iff]
  constructor
  · rintro ⟨t, ⟨cs, ds, hcs, hne, hds, hvalue⟩, rfl⟩
    exact ⟨⟨cs, hcs, hne, ds, hds, hvalue⟩, t.toNat_lt⟩
  · rintro ⟨⟨cs, hcs, hne, ds, hds, hvalue⟩, hlt⟩
    have ht : (UInt64.ofNat v).toNat = v := UInt64.toNat_ofNat_of_lt' hlt
    exact ⟨UInt64.ofNat v, ⟨cs, ds, hcs, hne, hds, hvalue.trans ht.symm⟩, ht⟩

/-! ## The written numeral -/

open traceText (digits digit)

theorem isSmallDigit_iff : IsSmallDigit c d ↔ d < 36 ∧ c = digit d := by
  have hall : ∀ d < 36, (digit d).toNat = codeFrom 0x61 d := by decide
  rw [IsSmallDigit, smallDigits_eq_some_iff]
  refine and_congr_right fun hlt => ?_
  rw [← hall d hlt, Char.toNat_inj]

theorem isNumeral_digits (n : Nat) : IsNumeral IsSmallDigit (digits n) n := by
  induction n using traceText.digits.induct with
  | case1 n hlt =>
    rw [digits, if_pos hlt]
    exact .one (isSmallDigit_iff.mpr ⟨hlt, rfl⟩)
  | case2 n hge ih =>
    have hnumeral := IsNumeral.more ih
      (isSmallDigit_iff.mpr ⟨Nat.mod_lt n (by decide), rfl⟩ : IsSmallDigit _ (n % 36))
    rw [Nat.div_add_mod'] at hnumeral
    rw [digits, if_neg hge]
    exact hnumeral

theorem digits_concat (hn : 0 < n) (hd : d < 36) : digits (n * 36 + d) = digits n ++ [digit d] := by
  have hdiv : (n * 36 + d) / 36 = n := by omega
  have hmod : (n * 36 + d) % 36 = d := by omega
  rw [digits, if_neg (by omega), hdiv, hmod]

/-- Every numeral in lowercase is the written one with zeros in front. -/
theorem exists_zeros (h : IsNumeral IsSmallDigit cs n) :
    ∃ k, cs = List.replicate k '0' ++ digits n := by
  induction h with
  | one hd =>
    obtain ⟨hlt, rfl⟩ := isSmallDigit_iff.mp hd
    refine ⟨0, ?_⟩
    rw [digits, if_pos hlt]
    rfl
  | @more cs n c d hcs hd ih =>
    obtain ⟨hlt, rfl⟩ := isSmallDigit_iff.mp hd
    obtain ⟨k, rfl⟩ := ih
    rcases Nat.eq_zero_or_pos n with rfl | hpos
    · have hzero : digits 0 = ['0'] := by rw [digits]; rfl
      refine ⟨k + 1, ?_⟩
      rw [hzero, ← List.replicate_succ', Nat.zero_mul, Nat.zero_add, digits, if_pos hlt]
    · exact ⟨k, by rw [digits_concat hpos hlt, List.append_assoc]⟩

theorem eq_or_longer_of_isNumeral (h : IsNumeral IsSmallDigit cs n) :
    cs = digits n ∨ (digits n).length < cs.length := by
  obtain ⟨k, rfl⟩ := exists_zeros h
  rcases Nat.eq_zero_or_pos k with rfl | hpos
  · exact Or.inl rfl
  · right
    rw [List.length_append, List.length_replicate]
    omega

/-! ## The buffer -/

/-- The byte of a digit. -/
def digitByte (c : Char) : UInt8 := UInt8.ofNat c.toNat

/-- How many digits the buffer has room for. -/
def room : Nat := 13

/-- A buffer with the digits of a number in front of a position, and the position of the first of
them. Each digit is put in front of those after it. -/
def fill? (buffer : Bytes) (pos value : Nat) : Option (Bytes × Nat) := do
  let pos ← less? pos 1
  let b ← (smallDigits.map digitByte)[value % 36]?
  let buffer ← put? buffer pos b
  if value < 36 then some (buffer, pos) else fill? buffer pos (value / 36)
termination_by value
decreasing_by omega

/-- A trace token as it is written through the buffer. -/
def written? (t : Trace) : Option String := do
  let (buffer, pos) ← fill? (List.replicate room 0) room t.toNat
  let filled ← slice? buffer pos buffer.length
  Text.decode? filled

theorem digitBytes_eq_some (h : d < 36) :
    (smallDigits.map digitByte)[d]? = some (digitByte (digit d)) := by
  have hdigit : smallDigits[d]? = some (digit d) := isSmallDigit_iff.mpr ⟨h, rfl⟩
  rw [List.getElem?_map, hdigit, Option.map_some]

/-- Digits fit in front of a position if the number is small enough for it. -/
theorem fill?_eq_some {buffer : Bytes} {pos value : Nat} (hvalue : value < Nat.pow 36 pos)
    (hpos : 0 < pos) (hlength : pos ≤ buffer.length) :
    (digits value).length ≤ pos ∧ fill? buffer pos value =
      some (buffer.take (pos - (digits value).length) ++ (digits value).map digitByte ++
        buffer.drop pos, pos - (digits value).length) := by
  induction pos generalizing value buffer with
  | zero => exact absurd hpos (Nat.lt_irrefl 0)
  | succ pos ih =>
    have hstep : fill? buffer (pos + 1) value =
        if value < 36 then some (buffer.set pos (digitByte (digit (value % 36))), pos)
        else fill? (buffer.set pos (digitByte (digit (value % 36)))) pos (value / 36) := by
      have hless : less? (pos + 1) 1 = some pos := Checked.less?_eq_some (Nat.succ_pos pos)
      rw [fill?, hless, Option.bind_eq_bind, Option.bind_some,
        digitBytes_eq_some (Nat.mod_lt value (by decide)), Option.bind_eq_bind, Option.bind_some,
        Checked.put?_eq_some _ (by omega), Option.bind_eq_bind, Option.bind_some]
    rw [hstep]
    by_cases hsmall : value < 36
    · rw [if_pos hsmall, Nat.mod_eq_of_lt hsmall, digits, if_pos hsmall]
      refine ⟨Nat.succ_pos pos, ?_⟩
      rw [List.set_eq_take_append_cons_drop, if_pos (by omega)]
      simp
    · have hdigits : digits value = digits (value / 36) ++ [digit (value % 36)] := by
        rw [digits, if_neg hsmall]
      have hbound : value / 36 < Nat.pow 36 pos :=
        Nat.div_lt_of_lt_mul (Nat.mul_comm _ _ ▸ hvalue)
      have hroom : 0 < pos := by
        rcases Nat.eq_zero_or_pos pos with rfl | hroom
        · have hone : Nat.pow 36 0 = 1 := rfl
          omega
        · exact hroom
      have hlength' : pos ≤ (buffer.set pos (digitByte (digit (value % 36)))).length := by
        rw [List.length_set]
        omega
      obtain ⟨hfits, hfill⟩ := ih hbound hroom hlength'
      rw [if_neg hsmall, hfill, hdigits, List.length_append, List.length_singleton]
      refine ⟨by omega, ?_⟩
      have hstart : pos + 1 - ((digits (value / 36)).length + 1) =
          pos - (digits (value / 36)).length := by omega
      have hrest : (buffer.set pos (digitByte (digit (value % 36)))).drop pos =
          digitByte (digit (value % 36)) :: buffer.drop (pos + 1) := by
        rw [List.drop_set, if_neg (Nat.lt_irrefl pos), Nat.sub_self,
          List.drop_eq_getElem_cons hlength, List.set_cons_zero]
      rw [hstart, hrest, List.take_set_of_le (by omega), List.map_append, List.map_singleton]
      simp

/-- The bytes of the digits are the bytes of the text. -/
theorem encode_traceText (t : Trace) :
    Text.encode (traceText t) = (digits t.toNat).map digitByte := by
  rw [traceText, Text.encode_ofList, List.map_eq_flatMap]
  refine List.flatMap_congr fun c hc => ?_
  obtain ⟨-, hlt⟩ := isVisible_traceDigits t.toNat c hc
  exact Text.encodeChar_ascii (by omega)

/-- The digits of every trace token fit in the buffer, and what is filled is its text. -/
theorem written?_eq_some (t : Trace) : written? t = some (traceText t) := by
  have hbound : t.toNat < Nat.pow 36 room := Nat.lt_trans t.toNat_lt (by decide)
  have hlength : (List.replicate room (0 : UInt8)).length = room := List.length_replicate
  obtain ⟨hfits, hfill⟩ := fill?_eq_some hbound (by decide) (Nat.le_of_eq hlength.symm)
  have hfront : ((List.replicate room (0 : UInt8)).take (room - (digits t.toNat).length)).length =
      room - (digits t.toNat).length := by
    rw [List.length_take, hlength]
    omega
  rw [List.drop_of_length_le (Nat.le_of_eq hlength), List.append_nil] at hfill
  generalize (List.replicate room (0 : UInt8)).take (room - (digits t.toNat).length) = front
    at hfill hfront
  rw [written?, hfill, Option.bind_eq_bind, Option.bind_some]
  change slice? _ _ _ >>= Text.decode? = _
  rw [← hfront, Checked.slice?_append, Option.bind_eq_bind, Option.bind_some, ← encode_traceText,
    Text.decode_encode]

/-- Zeros can stand in front of a numeral. -/
theorem IsNumeral.zero_cons {digit : Char → Nat → Prop} (hzero : digit '0' 0)
    (h : IsNumeral digit cs n) : IsNumeral digit ('0' :: cs) n := by
  induction h with
  | @one c d hd =>
    have hnumeral := IsNumeral.more (.one hzero) hd
    rwa [Nat.zero_mul, Nat.zero_add] at hnumeral
  | more _ hd ih => exact ih.more hd

/-- Every trace token is written within its buffer, as the shortest numeral of it in lowercase, of
which there is one only, and it is read back. A text is read with a value exactly where it is a
numeral of either case, perhaps behind a plus sign, whose value fits in 64 bits. -/
theorem trace_text_canonical (t : Trace) :
    written? t = some (traceText t) ∧
    IsNumeral IsSmallDigit (traceText t).toList t.toNat ∧
    (∀ text : String, IsNumeral IsSmallDigit text.toList t.toNat →
      text = traceText t ∨ (traceText t).length < text.length) ∧
    parseTrace (traceText t) = .ok t ∧
    ∀ (s : String) (v : Nat), (∃ u, parseTrace s = .ok u ∧ u.toNat = v) ↔
      (∃ cs, (s.toList = cs ∨ s.toList = '+' :: cs) ∧ IsNumeral IsDigit cs v) ∧
        v < UInt64.size := by
  refine ⟨written?_eq_some t, ?_, fun text h => ?_, parseTrace_traceText t,
    fun s v => parseTrace_value_iff⟩
  · rw [traceText, String.toList_ofList]
    exact isNumeral_digits t.toNat
  · rw [← String.toList_inj, traceText, String.toList_ofList, String.length_ofList]
    exact eq_or_longer_of_isNumeral h

/-- The greatest trace token, which takes all of the buffer. -/
def greatestTrace : Trace := 18446744073709551615

theorem trace_text_canonical_greatest :
    IsNumeral IsSmallDigit "03w5e11264sgsf".toList greatestTrace.toNat ∧
      ("03w5e11264sgsf" = traceText greatestTrace ∨
        (traceText greatestTrace).length < "03w5e11264sgsf".length) ∧
      written? greatestTrace = some "3w5e11264sgsf" ∧
      ¬ ∃ u, parseTrace "3w5e11264sgsg" = .ok u ∧ u.toNat = greatestTrace.toNat + 1 := by
  have htext : traceText greatestTrace = "3w5e11264sgsf" := by decide +kernel
  have hzero : "03w5e11264sgsf".toList = '0' :: "3w5e11264sgsf".toList := by decide
  obtain ⟨hwritten, hnumeral, hshortest, -, hread⟩ := trace_text_canonical greatestTrace
  rw [htext] at hwritten hnumeral
  have hlonger : IsNumeral IsSmallDigit "03w5e11264sgsf".toList greatestTrace.toNat :=
    hzero ▸ hnumeral.zero_cons rfl
  refine ⟨hlonger, hshortest _ hlonger, hwritten, fun h => ?_⟩
  exact absurd ((hread _ _).mp h).2 (by decide)

end FsGateway.Client
