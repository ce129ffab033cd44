import FsGateway.Proofs.Url.Path
import FsGateway.Url.Host

/-!
# The text of a host

No character of the text of a host ends a host: the numbers of an address and the colons and
brackets around them do not, and a name that holds such a character is no host.

* `Host.text_of_parseFor`: the characters of the text of a host.
-/

namespace FsGateway.Url

/-- A character that may stand in the text of a host. -/
def IsHostChar (c : Char) : Prop := 0x20 < c.toNat ∧ c ∉ ['#', '/', '?', '@', '\\']

instance (c : Char) : Decidable (IsHostChar c) := inferInstanceAs (Decidable (_ ∧ _))

variable {P : Char → Prop} {cs : List Char} {host : Host}

/-! ## Texts between others -/

theorem forall_mem_intercalate {sep : List Char} {parts : List (List Char)}
    (hsep : ∀ c ∈ sep, P c) (h : ∀ part ∈ parts, ∀ c ∈ part, P c) :
    ∀ c ∈ sep.intercalate parts, P c := by
  induction parts with
  | nil => simp [List.intercalate]
  | cons part parts ih =>
    have hpart := h part List.mem_cons_self
    have hparts := ih fun p hp => h p (List.mem_cons_of_mem part hp)
    cases parts with
    | nil => simpa [List.intercalate] using hpart
    | cons next parts =>
      have hcons : sep.intercalate (part :: next :: parts) =
          part ++ sep ++ sep.intercalate (next :: parts) := by simp [List.intercalate]
      rw [hcons]
      exact List.forall_mem_append.mpr ⟨List.forall_mem_append.mpr ⟨hpart, hsep⟩, hparts⟩

/-! ## Numbers -/

theorem mem_toDigits {base : Nat} (hbase : 1 < base) (n : Nat) :
    ∀ c ∈ Nat.toDigits base n, ∃ d < base, c = Nat.digitChar d := by
  induction n using Nat.strongRecOn with
  | ind n ih =>
    by_cases h : n < base
    · rw [Nat.toDigits_of_lt_base h]
      simpa using ⟨n, h, rfl⟩
    · have hsmaller : n / base < n := Nat.div_lt_self (by omega) hbase
      rw [Nat.toDigits_of_base_le hbase (by omega)]
      refine List.forall_mem_append.mpr ⟨ih (n / base) hsmaller, ?_⟩
      simpa using ⟨n % base, Nat.mod_lt n (by omega), rfl⟩

theorem isHostChar_digitChar : ∀ d < 16, IsHostChar (Nat.digitChar d) := by decide

theorem isHostChar_toString (n : Nat) : ∀ c ∈ (toString n).toList, IsHostChar c := by
  rw [Nat.toString_eq_repr, Nat.toList_repr]
  intro c hc
  obtain ⟨d, hd, rfl⟩ := mem_toDigits (by omega) n c hc
  exact isHostChar_digitChar d (by omega)

theorem Host.isHostChar_ipv4 (address : Nat) :
    ∀ c ∈ (ipv4 address).text.toList, IsHostChar c := by
  rw [text, ipv4Text, String.toList_intercalate]
  refine forall_mem_intercalate (List.all_iff_forall_prop.mp (by decide)) ?_
  simp only [List.map_map, List.forall_mem_map]
  exact fun n _ => isHostChar_toString n

theorem Host.isHostChar_pieces (pieces : List Nat) :
    ∀ c ∈ (piecesText pieces).toList, IsHostChar c := by
  rw [piecesText, String.toList_intercalate]
  refine forall_mem_intercalate (List.all_iff_forall_prop.mp (by decide)) ?_
  simp only [List.map_map, List.forall_mem_map]
  intro n _ c hc
  obtain ⟨d, hd, rfl⟩ := mem_toDigits (show 1 < 16 by omega) n c (by simpa using hc)
  exact isHostChar_digitChar d hd

theorem Host.isHostChar_ipv6 (pieces : List Nat) :
    ∀ c ∈ (ipv6 pieces).text.toList, IsHostChar c := by
  have hopen : ∀ c ∈ "[".toList, IsHostChar c := List.all_iff_forall_prop.mp (by decide)
  have hgap : ∀ c ∈ "::".toList, IsHostChar c := List.all_iff_forall_prop.mp (by decide)
  have hclose : ∀ c ∈ "]".toList, IsHostChar c := List.all_iff_forall_prop.mp (by decide)
  dsimp only [text, ipv6Text]
  split
  · simp only [String.toList_append, List.forall_mem_append]
    exact ⟨⟨⟨⟨hopen, isHostChar_pieces _⟩, hgap⟩, isHostChar_pieces _⟩, hclose⟩
  · simp only [String.toList_append, List.forall_mem_append]
    exact ⟨⟨hopen, isHostChar_pieces _⟩, hclose⟩

/-! ## Punycode -/

theorem Punycode.isHostChar_digitChar : ∀ d < 36, IsHostChar (digitChar d) := by decide

theorem Punycode.threshold_bounds (k bias : Nat) : threshold k bias ≤ 26 := by
  unfold threshold
  split
  · omega
  · split <;> omega

theorem Punycode.isHostChar_deltaDigits (fuel q k bias : Nat) :
    ∀ c ∈ deltaDigits fuel q k bias, IsHostChar c := by
  induction fuel generalizing q k with
  | zero => simp [deltaDigits]
  | succ fuel ih =>
    have hbound := threshold_bounds k bias
    rw [deltaDigits]
    split
    · simpa using isHostChar_digitChar q (by omega)
    · have hmod := Nat.mod_lt (q - threshold k bias) (show 0 < 36 - threshold k bias by omega)
      exact List.forall_mem_cons.mpr ⟨isHostChar_digitChar _ (by omega), ih _ _⟩

theorem Punycode.isHostChar_encodeRound (n basic : Nat) (label : List Char) {p : Progress}
    (h : ∀ c ∈ p.output, IsHostChar c) :
    ∀ c ∈ (encodeRound n basic label p).output, IsHostChar c := by
  unfold encodeRound
  induction label generalizing p with
  | nil => exact h
  | cons x label ih =>
    rw [List.foldl_cons]
    refine ih ?_
    split
    · exact h
    · split
      · exact List.forall_mem_append.mpr ⟨h, isHostChar_deltaDigits _ _ _ _⟩
      · exact h

theorem Punycode.isHostChar_encodeFrom (label : List Char) (basic fuel n : Nat) {p : Progress}
    (h : ∀ c ∈ p.output, IsHostChar c) :
    ∀ c ∈ encodeFrom label basic fuel n p, IsHostChar c := by
  induction fuel generalizing n p with
  | zero => exact h
  | succ fuel ih =>
    rw [encodeFrom]
    split
    · exact h
    · exact ih _ (isHostChar_encodeRound _ _ _ h)

/-- Only characters of ASCII are written in Punycode as they are. -/
theorem Punycode.isHostChar_encode (h : ∀ c ∈ cs, c.toNat < 0x80 → IsHostChar c) :
    ∀ c ∈ encode cs, IsHostChar c := by
  have hbasic : ∀ c ∈ cs.filter (·.toNat < 0x80), IsHostChar c := by
    intro c hc
    obtain ⟨hmem, hascii⟩ := List.mem_filter.mp hc
    exact h c hmem (of_decide_eq_true hascii)
  refine isHostChar_encodeFrom _ _ _ _ ?_
  dsimp only
  split
  · simp
  · exact List.forall_mem_append.mpr ⟨hbasic, List.all_iff_forall_prop.mp (by decide)⟩

/-! ## Names -/

theorem Domain.isHostChar_of_isDelimiter {c : Char} (h : isDelimiter c = false) : IsHostChar c := by
  simp only [isDelimiter, Bool.or_eq_false_iff, decide_eq_false_iff_not] at h
  obtain ⟨⟨hlow, -⟩, hlist⟩ := h
  refine ⟨by omega, fun hmem => ?_⟩
  have hall : ∀ x ∈ ['#', '/', '?', '@', '\\'],
      ['%', '#', '/', ':', '<', '>', '?', '@', '[', '\\', ']', '^', '|'].contains x = true :=
    List.all_iff_forall_prop.mp (by decide)
  rw [hall c hmem] at hlist
  cases hlist

theorem Domain.isHostChar_written {label : Label} (hcs : ∀ c ∈ cs, IsHostChar c)
    (h : label? cs = some label) : ∀ c ∈ label.written, IsHostChar c := by
  have hmark : ∀ c ∈ mark, IsHostChar c := List.all_iff_forall_prop.mp (by decide)
  unfold label? at h
  split at h
  · unfold labelOfCode? at h
    split at h
    · split at h
      · split at h
        · cases h
          exact List.forall_mem_append.mpr ⟨hmark, fun c hc => hcs c (List.mem_of_mem_drop hc)⟩
        · cases h
      · cases h
    · cases h
  · split at h
    · cases h
      exact hcs
    · split at h
      · cases h
        exact List.forall_mem_append.mpr
          ⟨hmark, Punycode.isHostChar_encode fun c hc _ => hcs c hc⟩
      · cases h

theorem exists_of_mem_mapM {α β : Type} {f : α → Option β} {xs : List α} {ys : List β} {y : β}
    (h : xs.mapM f = some ys) (hy : y ∈ ys) : ∃ x ∈ xs, f x = some y := by
  induction xs generalizing ys with
  | nil =>
    cases h
    cases hy
  | cons x xs ih =>
    rw [List.mapM_cons] at h
    cases hx : f x with
    | none =>
      rw [hx] at h
      cases h
    | some z =>
      cases hxs : xs.mapM f with
      | none =>
        rw [hx, hxs] at h
        cases h
      | some zs =>
        rw [hx, hxs] at h
        cases h
        rcases List.mem_cons.mp hy with rfl | hy
        · exact ⟨x, List.mem_cons_self, hx⟩
        · obtain ⟨x', hx', hf⟩ := ih hxs hy
          exact ⟨x', List.mem_cons_of_mem x hx', hf⟩

theorem Domain.isHostChar_toAscii {domain : List Char} (h : toAscii? cs = some domain) :
    ∀ c ∈ domain, IsHostChar c := by
  unfold toAscii? at h
  split at h
  · rename_i s _
    unfold toAsciiChars? at h
    split at h
    · rename_i labels hlabels
      split at h
      · cases h
        refine forall_mem_intercalate (List.all_iff_forall_prop.mp (by decide)) ?_
        simp only [List.forall_mem_map]
        intro label hlabel
        unfold labels? at hlabels
        split at hlabels
        · rename_i normal _
          split at hlabels
          · cases hlabels
          · rename_i hdelimiter
            obtain ⟨part, hpart, hwritten⟩ := exists_of_mem_mapM hlabels hlabel
            refine isHostChar_written (fun c hc => isHostChar_of_isDelimiter ?_) hwritten
            have hnormal := (mem_splitAt hpart c hc).1
            simpa using fun hc => hdelimiter (List.any_eq_true.mpr ⟨c, hnormal, hc⟩)
        · cases hlabels
      · cases h
    · cases h
  · cases h

theorem Host.ipv4_text_ne (address : Nat) : (ipv4 address).text ≠ "" := by
  rw [Ne, ← String.toList_inj, text, ipv4Text, String.toList_intercalate]
  simp [List.intercalate]

theorem Host.ipv6_text_ne (pieces : List Nat) : (ipv6 pieces).text ≠ "" := by
  rw [Ne, ← String.toList_inj]
  dsimp only [text, ipv6Text]
  split <;> simp

theorem Host.text_of_parseIpv6 (h : parseIpv6 cs = .ok host) :
    host.text ≠ "" ∧ ∀ c ∈ host.text.toList, IsHostChar c := by
  unfold parseIpv6 at h
  split at h
  · cases hpieces : ipv6Pieces? (cs.drop 1).dropLast with
    | none =>
      rw [hpieces] at h
      cases h
    | some pieces =>
      rw [hpieces] at h
      cases h
      exact ⟨ipv6_text_ne pieces, isHostChar_ipv6 pieces⟩
  · cases h

theorem Host.text_of_parseIpv4 (h : parseIpv4 cs = .ok host) :
    host.text ≠ "" ∧ ∀ c ∈ host.text.toList, IsHostChar c := by
  unfold parseIpv4 at h
  split at h
  · rename_i numbers _
    cases haddress : ipv4Address? numbers with
    | none =>
      rw [haddress] at h
      cases h
    | some address =>
      rw [haddress] at h
      cases h
      exact ⟨ipv4_text_ne address, isHostChar_ipv4 address⟩
  · cases h

theorem isHostChar_upperHex : ∀ n < 16, IsHostChar (upperHex n) := by decide

theorem Host.isHostChar_of_notMem_forbidden {c : Char} (hlow : 0x20 ≤ c.toNat)
    (h : c ∉ forbidden) : IsHostChar c := by
  have hspace : c ≠ ' ' := fun hc => h (hc ▸ by decide)
  have hvalue : c.toNat ≠ 0x20 := fun hc => hspace (Char.toNat_inj.mp hc)
  refine ⟨by omega, fun hmem => h ?_⟩
  have hall : ∀ x ∈ ['#', '/', '?', '@', '\\'], x ∈ forbidden :=
    List.all_iff_forall_prop.mp (by decide)
  exact hall c hmem

/-- The host of a URL of a special scheme is not empty. -/
theorem Host.text_of_parse (h : parse cs = .ok host) :
    host.text ≠ "" ∧ ∀ c ∈ host.text.toList, IsHostChar c := by
  unfold parse at h
  split at h
  · exact text_of_parseIpv6 h
  · split at h
    · cases h
    · rename_i domain hdomain
      split at h
      · cases h
      · rename_i hempty
        split at h
        · exact text_of_parseIpv4 h
        · cases h
          refine ⟨?_, ?_⟩
          · simpa [text, ← String.toList_inj] using hempty
          · simpa [text] using Domain.isHostChar_toAscii hdomain

theorem Host.text_of_parseName (h : parseName cs = .ok host) (hcs : cs ≠ []) :
    host.text ≠ "" ∧ ∀ c ∈ host.text.toList, IsHostChar c := by
  unfold parseName at h
  split at h
  · exact text_of_parseIpv6 h
  · split at h
    · cases h
    · rename_i hforbidden
      cases h
      refine ⟨?_, ?_⟩
      · rw [text, Ne, ← String.toList_inj, String.toList_ofList, String.toList_empty]
        intro hnil
        exact hcs (eq_of_percentEncode_eq hnil (by simp))
      · rw [text, String.toList_ofList]
        intro c hc
        rcases mem_percentEncode hc with ⟨hmem, hkept⟩ | rfl | ⟨n, hn, rfl⟩
        · have hallowed : c ∉ forbidden := fun hin =>
            hforbidden (List.any_eq_true.mpr ⟨c, hmem, List.contains_iff_mem.mpr hin⟩)
          exact isHostChar_of_notMem_forbidden (printable_of_not_contains hkept).1 hallowed
        · decide
        · exact isHostChar_upperHex n hn

/-- The host that a text stands for in URLs of a kind. -/
def Host.parseFor (kind : Kind) (cs : List Char) : Except Fault Host :=
  if kind = .other then parseName cs else parse cs

theorem Host.text_of_parseFor {kind : Kind} (h : parseFor kind cs = .ok host) (hcs : cs ≠ []) :
    host.text ≠ "" ∧ ∀ c ∈ host.text.toList, IsHostChar c := by
  unfold parseFor at h
  split at h
  · exact text_of_parseName h hcs
  · exact text_of_parse h

end FsGateway.Url
