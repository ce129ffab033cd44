import FsGateway.Proofs.Url.Host
import Mathlib.Data.Nat.Digits.Lemmas

/-!
# Addresses

The text of an address is read as the same address: four decimal numbers, or pieces in hexadecimal,
of which a run of zeros may be left out.

* `ipv4Address_octets`: four numbers below 256 make up an address.
* `ipv6Pieces_text`: the pieces of an address of version 6 are read from its text.
-/

namespace FsGateway.Url

variable {radix n p : Nat} {cs part : List Char} {parts : List (List Char)} {ps qs : List Nat}

/-! ## Numbers -/

theorem hexValue_digitChar : ∀ d < 16, hexValue? (UInt8.ofNat (Nat.digitChar d).toNat) = some d := by
  decide

theorem isDigitOf_digitChar :
    ∀ radix ≤ 16, ∀ d < radix, Host.isDigitOf radix (Nat.digitChar d) = true := by
  decide

theorem isDigitOf_toDigits (hbase : 1 < radix) (hsmall : radix ≤ 16) (n : Nat) :
    (Nat.toDigits radix n).all (Host.isDigitOf radix) = true := by
  rw [List.all_eq_true]
  intro c hc
  obtain ⟨d, hd, rfl⟩ := mem_toDigits hbase n c hc
  exact isDigitOf_digitChar radix hsmall d hd

theorem digitsValue_concat (radix : Nat) (cs : List Char) (c : Char) :
    Host.digitsValue radix (cs ++ [c]) =
      Host.digitsValue radix cs * radix + (hexValue? (UInt8.ofNat c.toNat)).getD 0 := by
  simp [Host.digitsValue]

/-- The digits of a number spell it. -/
theorem digitsValue_toDigits (hbase : 1 < radix) (hsmall : radix ≤ 16) (n : Nat) :
    Host.digitsValue radix (Nat.toDigits radix n) = n := by
  induction n using Nat.strongRecOn with
  | ind n ih =>
    by_cases h : n < radix
    · rw [Nat.toDigits_of_lt_base h]
      simp [Host.digitsValue, hexValue_digitChar n (by omega)]
    · have hsmaller : n / radix < n := Nat.div_lt_self (by omega) hbase
      have hlast : n % radix < 16 := Nat.lt_of_lt_of_le (Nat.mod_lt n (by omega)) hsmall
      rw [Nat.toDigits_of_base_le hbase (by omega), digitsValue_concat, ih _ hsmaller,
        hexValue_digitChar _ hlast, Option.getD_some, Nat.mul_comm]
      exact Nat.div_add_mod n radix

theorem hexValue_lt {b : UInt8} {v : Nat} (h : hexValue? b = some v) : v < 16 := by
  unfold hexValue? at h
  split at h
  · rename_i hb
    cases h
    have := UInt8.le_iff_toNat_le.mp hb.2
    simp at this
    omega
  · split at h
    · rename_i hb
      cases h
      have := UInt8.le_iff_toNat_le.mp hb.2
      simp at this
      omega
    · split at h
      · rename_i hb
        cases h
        have := UInt8.le_iff_toNat_le.mp hb.2
        simp at this
        omega
      · cases h

theorem digitsValue_lt (cs : List Char) : Host.digitsValue 16 cs < 16 ^ cs.length := by
  induction cs using List.reverseRecOn with
  | nil => simp [Host.digitsValue]
  | append_singleton cs c ih =>
    have hlast : (hexValue? (UInt8.ofNat c.toNat)).getD 0 < 16 := by
      cases hvalue : hexValue? (UInt8.ofNat c.toNat) with
      | none => simp
      | some v => exact hexValue_lt hvalue
    rw [digitsValue_concat, List.length_append, List.length_singleton, Nat.pow_succ]
    omega

/-! ## Parts between separators -/

theorem splitAt_intercalate {p : Char → Bool} {sep : Char} (hsep : p sep = true)
    (hne : parts ≠ []) (h : ∀ part ∈ parts, ∀ c ∈ part, p c = false) :
    splitAt p ([sep].intercalate parts) = parts := by
  induction parts with
  | nil => exact absurd rfl hne
  | cons part parts ih =>
    have hpart := h part List.mem_cons_self
    have hparts := fun next hnext => h next (List.mem_cons_of_mem part hnext)
    cases parts with
    | nil => simpa [List.intercalate] using splitAt_of_forall hpart
    | cons next parts =>
      rw [List.intercalate_cons_cons, List.append_assoc, List.singleton_append,
        splitAt_append hsep hpart, ih (by simp) hparts]

theorem digitChar_ne : ∀ d < 16, Nat.digitChar d ≠ '.' ∧ Nat.digitChar d ≠ ':' ∧
    Nat.digitChar d ≠ '[' ∧ Nat.digitChar d ≠ ']' := by
  decide

theorem ne_of_mem_toDigits (hbase : 1 < radix) (hsmall : radix ≤ 16) {c : Char}
    (h : c ∈ Nat.toDigits radix n) : c ≠ '.' ∧ c ≠ ':' ∧ c ≠ '[' ∧ c ≠ ']' := by
  obtain ⟨d, hd, rfl⟩ := mem_toDigits hbase n c h
  exact digitChar_ne d (by omega)

theorem mapM_map_eq_some {α β γ : Type} {f : β → Option γ} {g : α → β} {k : α → γ} {xs : List α}
    (h : ∀ x ∈ xs, f (g x) = some (k x)) : (xs.map g).mapM f = some (xs.map k) := by
  induction xs with
  | nil => rfl
  | cons x xs ih =>
    rw [List.map_cons, List.mapM_cons, h x List.mem_cons_self,
      ih fun y hy => h y (List.mem_cons_of_mem x hy)]
    rfl

namespace Host

/-! ## Version 4 -/

/-- The four numbers of an address. -/
def octets (address : Nat) : List Nat :=
  [address / 16777216, address / 65536 % 256, address / 256 % 256, address % 256]

theorem ipv4_chars (address : Nat) : (ipv4 address).text.toList =
    ['.'].intercalate ((octets address).map fun n => (toString n).toList) := by
  simp [text, ipv4Text, octets]

theorem octets_lt {address : Nat} (h : address < 4294967296) : ∀ n ∈ octets address, n < 256 := by
  simp only [octets, List.forall_mem_cons, List.not_mem_nil, false_implies, implies_true, and_true]
  omega

theorem toString_chars (n : Nat) : (toString n).toList = Nat.toDigits 10 n := by
  rw [Nat.toString_eq_repr, Nat.toList_repr]

theorem ipv4Number_toString : ∀ n < 256, ipv4Number? (toString n).toList = some n := by
  decide +kernel

theorem ipv4Address_of_lt {a b c d : Nat} (ha : a < 256) (hb : b < 256) (hc : c < 256)
    (hd : d < 256) : ipv4Address? [a, b, c, d] = some (((a * 256 + b) * 256 + c) * 256 + d) := by
  have hsmall : ¬(255 < a ∨ 255 < b ∨ 255 < c) := by omega
  have hlast : ¬256 ≤ d := by omega
  simp [ipv4Address?, wordCount, hsmall, hlast]

/-- The numbers of an address make up the address. -/
theorem ipv4Address_octets {address : Nat} (h : address < 4294967296) :
    ipv4Address? (octets address) = some address := by
  rw [octets, ipv4Address_of_lt (by omega) (by omega) (by omega) (by omega)]
  congr 1
  omega

theorem dottedParts_ipv4 (address : Nat) :
    dottedParts (ipv4 address).text.toList =
      (octets address).map fun n => (toString n).toList := by
  have hdot : ∀ part ∈ (octets address).map fun n => (toString n).toList,
      ∀ c ∈ part, decide (c = '.') = false := by
    rw [List.forall_mem_map]
    intro n _ c hc
    rw [toString_chars] at hc
    simpa using (ne_of_mem_toDigits (by decide) (by decide) hc).1
  have hlast : (toString (address % 256)).toList ≠ [] := by
    rw [toString_chars]
    exact Nat.toDigits_ne_nil
  rw [dottedParts, ipv4_chars, splitAt_intercalate (by simp) (by simp [octets]) hdot]
  refine if_neg fun hempty => hlast ?_
  simpa [octets] using hempty.2

theorem parseIpv4_text {address : Nat} (h : address < 4294967296) :
    parseIpv4 (ipv4 address).text.toList = .ok (ipv4 address) := by
  have hnumbers := mapM_map_eq_some fun n hn => ipv4Number_toString n (octets_lt h n hn)
  rw [parseIpv4, dottedParts_ipv4, hnumbers, List.map_id']
  simp only [ipv4Address_octets h]
  rfl

theorem endsInNumber_ipv4 (address : Nat) : endsInNumber (ipv4 address).text.toList = true := by
  have hdigits := isDigitOf_toDigits (show 1 < 10 by decide) (by decide) (address % 256)
  rw [endsInNumber, dottedParts_ipv4]
  simp [octets, hdigits]

/-- An address of version 4 has 32 bits. -/
theorem ipv4Address_lt {numbers : List Nat} {address : Nat}
    (h : ipv4Address? numbers = some address) : address < 4294967296 := by
  unfold ipv4Address? at h
  split at h
  · cases h
  · rename_i last _
    dsimp only at h
    split at h
    · cases h
    · rename_i hbounds
      simp only [not_or, Nat.not_lt, Nat.not_le, Bool.not_eq_true] at hbounds
      obtain ⟨hlength, hfront, hlast⟩ := hbounds
      cases h
      generalize numbers.dropLast = front at *
      match front with
      | [] => simp [wordCount] at *; omega
      | [a] => simp [wordCount] at *; omega
      | [a, b] => simp [wordCount] at *; omega
      | [a, b, c] => simp [wordCount] at *; omega
      | a :: b :: c :: d :: more =>
        simp at hlength
        omega

/-! ## Version 6 -/

/-- Pieces in hexadecimal with colons between them. -/
def pieceChars (ps : List Nat) : List Char := [':'].intercalate (ps.map (Nat.toDigits 16))

theorem toList_piecesText (ps : List Nat) : (piecesText ps).toList = pieceChars ps := by
  simp [piecesText, pieceChars, Function.comp_def]

theorem pieceChars_cons_cons (p q : Nat) (ps : List Nat) :
    pieceChars (p :: q :: ps) = Nat.toDigits 16 p ++ ':' :: pieceChars (q :: ps) := by
  simp [pieceChars]

theorem ne_of_mem_pieceChars {c : Char} (h : c ∈ pieceChars ps) : c ≠ '.' ∧ c ≠ '[' ∧ c ≠ ']' := by
  refine forall_mem_intercalate (P := fun c => c ≠ '.' ∧ c ≠ '[' ∧ c ≠ ']') (by simp) ?_ c h
  rw [List.forall_mem_map]
  intro p _ x hx
  obtain ⟨hdot, -, hopen, hclose⟩ := ne_of_mem_toDigits (by decide) (by decide) hx
  exact ⟨hdot, hopen, hclose⟩

theorem splitAt_pieceChars (hne : ps ≠ []) :
    splitAt (· = ':') (pieceChars ps) = ps.map (Nat.toDigits 16) := by
  refine splitAt_intercalate (by simp) (by simpa using hne) ?_
  rw [List.forall_mem_map]
  intro p _ c hc
  simpa using (ne_of_mem_toDigits (by decide) (by decide) hc).2.1

theorem piece_toDigits (h : p < 65536) : pieces?.piece? (Nat.toDigits 16 p) = some p := by
  have hlength : (Nat.toDigits 16 p).length ≤ 4 :=
    (Nat.length_toDigits_le_iff (by decide) (by decide)).mpr h
  have hdigits := isDigitOf_toDigits (show 1 < 16 by decide) (by decide) p
  have hvalue := digitsValue_toDigits (show 1 < 16 by decide) (by decide) p
  simp [pieces?.piece?, Nat.toDigits_ne_nil, Nat.not_lt.mpr hlength, hdigits, hvalue]

theorem pieces_toDigits (h : ∀ p ∈ ps, p < 65536) :
    pieces? (ps.map (Nat.toDigits 16)) = some ps := by
  induction ps with
  | nil => rfl
  | cons p ps ih =>
    have hp := piece_toDigits (h p List.mem_cons_self)
    have hrest := ih fun q hq => h q (List.mem_cons_of_mem p hq)
    cases ps with
    | nil =>
      have hdot : '.' ∉ Nat.toDigits 16 p := fun hmem =>
        (ne_of_mem_toDigits (by decide) (by decide) hmem).1 rfl
      simp [pieces?, hdot, hp]
    | cons q ps =>
      simp only [List.map_cons] at hrest ⊢
      simp [pieces?, hp, hrest]

/-- Pieces do not start with a colon. -/
theorem exists_pieceChars (p : Nat) (ps : List Nat) :
    ∃ c rest, pieceChars (p :: ps) = c :: rest ∧ c ≠ ':' := by
  obtain ⟨c, digits, hdigits⟩ :=
    List.exists_cons_of_ne_nil (Nat.toDigits_ne_nil (n := p) (b := 16))
  have hcolon : c ≠ ':' :=
    (ne_of_mem_toDigits (n := p) (by decide) (by decide) (hdigits ▸ List.mem_cons_self)).2.1
  cases ps with
  | nil => exact ⟨c, digits, by simp [pieceChars, hdigits], hcolon⟩
  | cons q ps => exact ⟨c, _, by rw [pieceChars_cons_cons, hdigits, List.cons_append], hcolon⟩

theorem piecesOf_pieceChars (h : ∀ p ∈ ps, p < 65536) : piecesOf? (pieceChars ps) = some ps := by
  cases ps with
  | nil => rfl
  | cons p ps =>
    obtain ⟨c, rest, hchars, -⟩ := exists_pieceChars p ps
    have hsplit := splitAt_pieceChars (List.cons_ne_nil p ps)
    rw [piecesOf?, if_neg (by simp [hchars]), hsplit, pieces_toDigits h]

theorem splitAtGap_cons {c : Char} (h : c = ':' → cs.head? ≠ some ':') :
    splitAtGap (c :: cs) = (splitAtGap cs).map fun r => (c :: r.1, r.2) := by
  rw [splitAtGap]
  rintro rest rfl rfl
  exact h rfl rfl

theorem splitAtGap_append (h : ∀ c ∈ part, c ≠ ':') (cs : List Char) :
    splitAtGap (part ++ cs) = (splitAtGap cs).map fun r => (part ++ r.1, r.2) := by
  induction part with
  | nil => simp
  | cons c part ih =>
    have hc := h c List.mem_cons_self
    rw [List.cons_append, splitAtGap_cons fun hcolon => absurd hcolon hc,
      ih fun x hx => h x (List.mem_cons_of_mem c hx), Option.map_map]
    rfl

/-- No pair of colons stands between pieces. -/
theorem splitAtGap_pieceChars (ps : List Nat) (cs : List Char) :
    splitAtGap (pieceChars ps ++ cs) =
      (splitAtGap cs).map fun r => (pieceChars ps ++ r.1, r.2) := by
  induction ps with
  | nil => simp [pieceChars]
  | cons p ps ih =>
    have hp : ∀ c ∈ Nat.toDigits 16 p, c ≠ ':' := fun c hc =>
      (ne_of_mem_toDigits (by decide) (by decide) hc).2.1
    cases ps with
    | nil => simpa [pieceChars] using splitAtGap_append hp cs
    | cons q ps =>
      obtain ⟨c, rest, hchars, hc⟩ := exists_pieceChars q ps
      have hhead : (pieceChars (q :: ps) ++ cs).head? ≠ some ':' := by simp [hchars, hc]
      rw [pieceChars_cons_cons, List.append_assoc, splitAtGap_append hp, List.cons_append,
        splitAtGap_cons fun _ => hhead, ih, Option.map_map, Option.map_map]
      simp [Function.comp_def]

/-- Eight pieces are read without a gap. -/
theorem ipv6Pieces_pieceChars (hlength : ps.length = 8) (h : ∀ p ∈ ps, p < 65536) :
    ipv6Pieces? (pieceChars ps) = some ps := by
  have hne : ps ≠ [] := by
    rintro rfl
    cases hlength
  have hgap : splitAtGap (pieceChars ps) = none := by
    simpa [splitAtGap] using splitAtGap_pieceChars ps []
  rw [ipv6Pieces?, hgap]
  dsimp only
  rw [splitAt_pieceChars hne, pieces_toDigits h]
  exact if_pos hlength

/-- A gap stands for the zeros that are missing. -/
theorem ipv6Pieces_gap (hlength : ps.length + qs.length ≤ 7) (hps : ∀ p ∈ ps, p < 65536)
    (hqs : ∀ q ∈ qs, q < 65536) :
    ipv6Pieces? (pieceChars ps ++ ':' :: ':' :: pieceChars qs) =
      some (ps ++ List.replicate (8 - ps.length - qs.length) 0 ++ qs) := by
  have hgap : splitAtGap (pieceChars ps ++ ':' :: ':' :: pieceChars qs) =
      some (pieceChars ps, pieceChars qs) := by
    rw [splitAtGap_pieceChars]
    simp [splitAtGap]
  have hdot : '.' ∉ pieceChars ps := fun hmem => (ne_of_mem_pieceChars hmem).1 rfl
  rw [ipv6Pieces?, hgap]
  simp [piecesOf_pieceChars hps, piecesOf_pieceChars hqs, hdot, hlength]

theorem zeroRun_le (ps : List Nat) : zeroRun ps ≤ ps.length :=
  (List.takeWhile_prefix _).length_le

theorem take_zeroRun (ps : List Nat) : ps.take (zeroRun ps) = List.replicate (zeroRun ps) 0 := by
  refine List.eq_replicate_iff.mpr ⟨by simpa using zeroRun_le ps, fun p hp => ?_⟩
  have hprefix := List.takeWhile_prefix (fun p : Nat => decide (p = 0)) (l := ps)
  rw [zeroRun, ← List.prefix_iff_eq_take.mp hprefix] at hp
  simpa using List.mem_takeWhile_imp hp

/-- The longest run is a run of zeros, unless none is longer than the best one so far. -/
theorem longestRun_eq (i : Nat) (best : Nat × Nat) (ps : List Nat) :
    longestRun i best ps = best ∨ ∃ start length, longestRun i best ps = (i + start, length) ∧
      start + length ≤ ps.length ∧ (ps.drop start).take length = List.replicate length 0 := by
  induction ps generalizing i best with
  | nil => exact .inl rfl
  | cons p ps ih =>
    rw [longestRun]
    obtain hbest | ⟨start, length, hrun, hlength, hzeros⟩ :=
      ih (i + 1) (if best.2 < zeroRun (p :: ps) then (i, zeroRun (p :: ps)) else best)
    · by_cases hlonger : best.2 < zeroRun (p :: ps)
      · refine .inr ⟨0, zeroRun (p :: ps), ?_, ?_, take_zeroRun (p :: ps)⟩
        · rw [hbest, if_pos hlonger]
          rfl
        · simpa using zeroRun_le (p :: ps)
      · exact .inl (hbest.trans (if_neg hlonger))
    · refine .inr ⟨start + 1, length, ?_, ?_, hzeros⟩
      · rw [hrun, Nat.add_assoc, Nat.add_comm 1]
      · rw [List.length_cons]
        omega

theorem parseIpv6_brackets {mid : List Char} (h : ipv6Pieces? mid = some ps) :
    parseIpv6 ('[' :: (mid ++ [']'])) = .ok (ipv6 ps) := by
  have hlast : ('[' :: (mid ++ [']'])).getLast? = some ']' := by
    rw [← List.cons_append, List.getLast?_concat]
  rw [parseIpv6, hlast]
  simp [h]

/-- The text of an address of version 6: its pieces, or those before and after a run of zeros. -/
theorem ipv6_chars (ps : List Nat) :
    (ipv6 ps).text.toList = '[' :: (pieceChars ps ++ [']']) ∨
      ∃ front length back, 2 ≤ length ∧ ps = front ++ List.replicate length 0 ++ back ∧
        (ipv6 ps).text.toList =
          '[' :: (pieceChars front ++ ':' :: ':' :: pieceChars back ++ [']']) := by
  dsimp only [text, ipv6Text]
  by_cases hlong : 2 ≤ (longestRun 0 (0, 1) ps).2
  · obtain hbest | ⟨start, length, hrun, hinside, hzeros⟩ := longestRun_eq 0 (0, 1) ps
    · rw [hbest] at hlong
      omega
    · have hsplit : ps = ps.take start ++ List.replicate length 0 ++ ps.drop (start + length) := by
        rw [← hzeros, List.append_assoc, ← List.drop_drop, List.take_append_drop,
          List.take_append_drop]
      rw [hrun, Nat.zero_add] at hlong ⊢
      refine .inr ⟨ps.take start, length, ps.drop (start + length), hlong, hsplit, ?_⟩
      rw [if_pos hlong]
      simp [toList_piecesText]
  · rw [if_neg hlong]
    simp [toList_piecesText]

theorem parseIpv6_text (hlength : ps.length = 8) (h : ∀ p ∈ ps, p < 65536) :
    parseIpv6 (ipv6 ps).text.toList = .ok (ipv6 ps) := by
  obtain htext | ⟨front, length, back, hlong, hps, htext⟩ := ipv6_chars ps
  · rw [htext]
    exact parseIpv6_brackets (ipv6Pieces_pieceChars hlength h)
  · rw [hps, List.length_append, List.length_append, List.length_replicate] at hlength
    have hfront : ∀ p ∈ front, p < 65536 := fun p hp => h p (by simp [hps, hp])
    have hback : ∀ p ∈ back, p < 65536 := fun p hp => h p (by simp [hps, hp])
    have hpieces := ipv6Pieces_gap (by omega) hfront hback
    rw [show 8 - front.length - back.length = length by omega, ← hps] at hpieces
    rw [htext]
    exact parseIpv6_brackets hpieces

/-! ### Sixteen bits -/

theorem piece_lt (h : pieces?.piece? cs = some p) : p < 65536 := by
  unfold pieces?.piece? at h
  split at h
  · cases h
  · rename_i hshort
    cases h
    have hlength : cs.length ≤ 4 := by
      by_contra hlong
      exact hshort (.inr (.inl (by omega)))
    exact Nat.lt_of_lt_of_le (digitsValue_lt cs)
      (Nat.pow_le_pow_right (n := 16) (by decide) hlength)

theorem part_lt (h : embeddedIpv4?.part? cs = some p) : p < 256 := by
  unfold embeddedIpv4?.part? at h
  split at h
  · cases h
  · dsimp only at h
    split at h
    · rename_i hsmall
      cases h
      exact hsmall
    · cases h

theorem embeddedIpv4_lt (h : embeddedIpv4? cs = some ps) : ∀ p ∈ ps, p < 65536 := by
  unfold embeddedIpv4? at h
  split at h
  · rename_i a b c d hparts
    have hlt : ∀ n ∈ [a, b, c, d], n < 256 := by
      intro n hn
      obtain ⟨part, -, hpart⟩ := exists_of_mem_mapM hparts hn
      exact part_lt hpart
    simp only [List.forall_mem_cons] at hlt
    cases h
    simp only [List.forall_mem_cons, List.not_mem_nil, false_implies, implies_true, and_true]
    omega
  · cases h

theorem pieces_lt (h : pieces? parts = some ps) : ∀ p ∈ ps, p < 65536 := by
  induction parts generalizing ps with
  | nil =>
    cases h
    simp
  | cons part parts ih =>
    cases parts with
    | nil =>
      rw [pieces?] at h
      split at h
      · exact embeddedIpv4_lt h
      · obtain ⟨p, hp, rfl⟩ := Option.map_eq_some_iff.mp h
        simpa using piece_lt hp
    | cons next parts =>
      rw [pieces?] at h
      · split at h
        · rename_i p ps' hp hps
          cases h
          exact List.forall_mem_cons.mpr ⟨piece_lt hp, ih hps⟩
        · cases h
      · simp

theorem piecesOf_lt (h : piecesOf? cs = some ps) : ∀ p ∈ ps, p < 65536 := by
  unfold piecesOf? at h
  split at h
  · cases h
    simp
  · exact pieces_lt h

/-- An address of version 6 has eight pieces of 16 bits. -/
theorem ipv6Pieces_lt (h : ipv6Pieces? cs = some ps) :
    ps.length = 8 ∧ ∀ p ∈ ps, p < 65536 := by
  unfold ipv6Pieces? at h
  split at h
  · obtain ⟨qs, hqs, h⟩ := Option.bind_eq_some_iff.mp h
    split at h
    · rename_i hlength
      cases h
      exact ⟨hlength, pieces_lt hqs⟩
    · cases h
  · rename_i front back _
    obtain ⟨front', hfront, h⟩ := Option.bind_eq_some_iff.mp h
    obtain ⟨back', hback, h⟩ := Option.bind_eq_some_iff.mp h
    split at h
    · cases h
    · split at h
      · rename_i hlength
        cases h
        refine ⟨?_, ?_⟩
        · simp only [List.length_append, List.length_replicate]
          omega
        · simp only [List.forall_mem_append]
          refine ⟨⟨piecesOf_lt hfront, ?_⟩, piecesOf_lt hback⟩
          intro p hp
          rw [List.eq_of_mem_replicate hp]
          decide
      · cases h

theorem parseIpv6_eq_ok {host : Host} (h : parseIpv6 cs = .ok host) :
    ∃ ps, host = ipv6 ps ∧ ps.length = 8 ∧ ∀ p ∈ ps, p < 65536 := by
  unfold parseIpv6 at h
  split at h
  · cases hpieces : ipv6Pieces? (cs.drop 1).dropLast with
    | none =>
      rw [hpieces] at h
      cases h
    | some ps =>
      rw [hpieces] at h
      cases h
      exact ⟨ps, rfl, ipv6Pieces_lt hpieces⟩
  · cases h

theorem parseIpv4_eq_ok {host : Host} (h : parseIpv4 cs = .ok host) :
    ∃ address, host = ipv4 address ∧ address < 4294967296 := by
  unfold parseIpv4 at h
  split at h
  · rename_i numbers _
    cases haddress : ipv4Address? numbers with
    | none =>
      rw [haddress] at h
      cases h
    | some address =>
      rw [haddress] at h
      cases h
      exact ⟨address, rfl, ipv4Address_lt haddress⟩
  · cases h

end Host

end FsGateway.Url
