import FsGateway.Proofs.Text.Characters
import FsGateway.Proofs.Url.Address

/-!
# Names of hosts

A name that is plain ASCII in lowercase stands for itself, unless a label of it is in Punycode. Any
host but a name that is not plain is read from its own text.

* `Domain.toAscii_eq`: a plain name is its own ASCII form.
* `Host.parse_text`, `Host.parseName_text`: the text of a host is read as the host.
-/

namespace FsGateway.Url

variable {cs : List Char} {host : Host}

/-! ## Text in ASCII -/

theorem percentDecode_of_forall {bs : Bytes} (h : ∀ b ∈ bs, b ≠ 0x25) : percentDecode bs = bs := by
  induction bs with
  | nil => rfl
  | cons b bs ih =>
    have hb := h b List.mem_cons_self
    rw [percentDecode.eq_2 _ _ fun x y rest hpercent _ => hb hpercent,
      ih fun x hx => h x (List.mem_cons_of_mem b hx)]

/-- A text in ASCII without percent signs is decoded as it is. -/
theorem percentDecode_encode (hascii : ∀ c ∈ cs, c.toNat < 0x80) (hpercent : '%' ∉ cs) :
    percentDecode (Text.encode (String.ofList cs)) = Text.encode (String.ofList cs) := by
  refine percentDecode_of_forall fun b hb => ?_
  rw [Text.encode_ofList] at hb
  obtain ⟨c, hc, hbc⟩ := List.mem_flatMap.mp hb
  rw [Text.encodeChar_ascii (hascii c hc), List.mem_singleton] at hbc
  rintro rfl
  have hnat := congrArg UInt8.toNat hbc
  rw [UInt8.toNat_ofNat', Nat.mod_eq_of_lt (Nat.lt_trans (hascii c hc) (by decide))] at hnat
  have hvalue : c = '%' := Char.toNat_inj.mp hnat.symm
  exact hpercent (hvalue ▸ hc)

theorem intercalate_splitAt (sep : Char) (cs : List Char) :
    [sep].intercalate (splitAt (· = sep) cs) = cs := by
  induction cs with
  | nil => rfl
  | cons c cs ih =>
    obtain ⟨part, parts, hsplit⟩ := List.exists_cons_of_ne_nil (splitAt_ne_nil (· = sep) cs)
    rw [hsplit] at ih
    rw [splitAt, hsplit]
    by_cases hc : c = sep
    · rw [if_pos (by simpa using hc), List.intercalate_cons_cons, ih, hc]
      rfl
    · rw [if_neg (by simpa using hc)]
      cases parts with
      | nil => simpa [List.intercalate] using ih
      | cons next parts =>
        dsimp only
        rw [List.intercalate_cons_cons] at ih ⊢
        rw [← ih]
        rfl

namespace Domain

/-- A character of ASCII that stands for itself in a name. -/
def IsNameChar (c : Char) : Prop := c.toNat < 0x80 ∧ isDelimiter c = false ∧ c.toLower = c

instance (c : Char) : Decidable (IsNameChar c) := inferInstanceAs (Decidable (_ ∧ _))

/-- Whether a name is plain: it is ASCII in lowercase, and none of its labels is in Punycode. -/
def IsPlain (cs : List Char) : Prop :=
  (∀ c ∈ cs, IsNameChar c) ∧ ∀ label ∈ splitAt (· = '.') cs, mark.isPrefixOf label = false

theorem normalForm_eq (h : ∀ c ∈ cs, IsNameChar c) : normalForm? cs = some cs := by
  have hstand : cs.mapM standIn? = some (cs.map fun c => [c]) := by
    have hall : ∀ c ∈ cs, standIn? c = some [c] := by
      intro c hc
      obtain ⟨hascii, -, hlower⟩ := h c hc
      rw [standIn?, if_pos hascii, hlower]
    simpa using mapM_map_eq_some (g := id) hall
  have hflat : (cs.map fun c => [c]).flatten = cs := by rw [← List.flatMap_def, List.flatMap_singleton']
  have hlow : cs.all (fun c => c.toNat < 0x300) = true := by
    simp only [List.all_eq_true, decide_eq_true_eq]
    exact fun c hc => Nat.lt_trans (h c hc).1 (by decide)
  rw [normalForm?, hstand, Option.map_some, hflat, compose, if_pos hlow]

theorem labels_eq (h : IsPlain cs) :
    labels? cs = some ((splitAt (· = '.') cs).map fun part => ⟨part, part⟩) := by
  have hdelimiter : cs.any isDelimiter = false := by
    rw [List.any_eq_false]
    intro c hc
    simpa using (h.1 c hc).2.1
  have hlabel : ∀ part ∈ splitAt (· = '.') cs, label? part = some ⟨part, part⟩ := by
    intro part hpart
    have hascii : isAscii part = true := by
      simp only [isAscii, List.all_eq_true, decide_eq_true_eq]
      exact fun c hc => (h.1 c (mem_splitAt hpart c hc).1).1
    rw [label?, if_neg (by simp [h.2 part hpart]), if_pos hascii]
  rw [labels?, normalForm_eq h.1]
  dsimp only
  rw [if_neg (by simp [hdelimiter])]
  simpa using mapM_map_eq_some (g := id) hlabel

/-- Nothing in ASCII is written from right to left. -/
theorem isFromRight_of_ascii {c : Char} (h : c.toNat < 0x80) : (direction c).isFromRight = false := by
  rw [direction, if_pos h]
  split
  · rfl
  · split <;> rfl

/-- A plain name is its own ASCII form. -/
theorem toAscii_eq (h : IsPlain cs) : toAscii? cs = some cs := by
  have hpercent : '%' ∉ cs := fun hmem => absurd (h.1 _ hmem).2.1 (by decide)
  have horder : areInOrder ((splitAt (· = '.') cs).map fun part => ⟨part, part⟩) = true := by
    simp only [areInOrder, Bool.or_eq_true, List.all_map, List.all_eq_true, Function.comp_def]
    refine .inl fun part hpart c hc => ?_
    rw [isFromRight_of_ascii (h.1 c (mem_splitAt hpart c hc).1).1]
    rfl
  rw [toAscii?, percentDecode_encode (fun c hc => (h.1 c hc).1) hpercent, Text.decode_encode]
  dsimp only
  rw [String.toList_ofList, toAsciiChars?, labels_eq h]
  dsimp only
  rw [if_pos horder, List.map_map]
  simpa [Function.comp_def] using intercalate_splitAt '.' cs

end Domain

/-! ## Hosts that are read back -/

/-- A text that is split off as one host: it has no colon, unless it stands in brackets. -/
def IsWhole (text : List Char) : Prop :=
  (∀ c ∈ text, c ≠ ':' ∧ c ≠ '[') ∨
    ∃ inner, text = '[' :: (inner ++ [']']) ∧ ∀ c ∈ inner, c ≠ '[' ∧ c ≠ ']'

namespace Host

/-- Whether a host is read from its own text. -/
structure ReadsBack (kind : Kind) (host : Host) : Prop where
  whole : IsWhole host.text.toList
  read : parseFor kind host.text.toList = .ok host

theorem isWhole_ipv6 (ps : List Nat) : IsWhole (ipv6 ps).text.toList := by
  obtain htext | ⟨front, length, back, -, -, htext⟩ := ipv6_chars ps
  · exact .inr ⟨_, htext, fun c hc => (ne_of_mem_pieceChars hc).2⟩
  · refine .inr ⟨_, htext, ?_⟩
    have hcolon : (':' : Char) ≠ '[' ∧ ':' ≠ ']' := by decide
    intro c hc
    simp only [List.mem_append, List.mem_cons] at hc
    obtain hc | rfl | rfl | hc := hc
    · exact (ne_of_mem_pieceChars hc).2
    · exact hcolon
    · exact hcolon
    · exact (ne_of_mem_pieceChars hc).2

theorem head?_ipv6 (ps : List Nat) : (ipv6 ps).text.toList.head? = some '[' := by
  obtain htext | ⟨front, length, back, -, -, htext⟩ := ipv6_chars ps <;> rw [htext] <;> rfl

theorem readsBack_ipv6 (kind : Kind) {ps : List Nat} (hlength : ps.length = 8)
    (h : ∀ p ∈ ps, p < 65536) : (ipv6 ps).ReadsBack kind := by
  refine ⟨isWhole_ipv6 ps, ?_⟩
  rw [parseFor, parseName, parse, if_pos (head?_ipv6 ps), if_pos (head?_ipv6 ps), ite_self]
  exact parseIpv6_text hlength h

theorem isWhole_of_isPlain (h : Domain.IsPlain cs) : IsWhole cs := by
  refine .inl fun c hc => ?_
  have hdelimiter := (h.1 c hc).2.1
  refine ⟨?_, ?_⟩ <;> rintro rfl <;> exact absurd hdelimiter (by decide)

/-- A plain name that does not end in a number is read as it is. -/
theorem parse_of_isPlain (h : Domain.IsPlain cs) (hne : cs ≠ []) :
    parse cs = if endsInNumber cs then parseIpv4 cs else .ok (name (String.ofList cs)) := by
  have hhead : cs.head? ≠ some '[' := fun hopen =>
    absurd (h.1 _ (List.mem_of_head? hopen)).2.1 (by decide)
  rw [parse, if_neg hhead, Domain.toAscii_eq h]
  dsimp only
  rw [if_neg (by simpa using hne)]

theorem isNameChar_digitChar : ∀ d < 10, Domain.IsNameChar (Nat.digitChar d) ∧
    Nat.digitChar d ≠ 'x' := by
  decide

theorem isPlain_ipv4 (address : Nat) : Domain.IsPlain (ipv4 address).text.toList := by
  have hdigits : ∀ part ∈ (octets address).map fun n => (toString n).toList,
      ∀ c ∈ part, (Domain.IsNameChar c ∧ c ≠ 'x') ∧ decide (c = '.') = false := by
    rw [List.forall_mem_map]
    intro n _ c hc
    rw [toString_chars] at hc
    obtain ⟨d, hd, rfl⟩ := mem_toDigits (by decide) n c hc
    exact ⟨isNameChar_digitChar d hd, by simp⟩
  rw [ipv4_chars]
  refine ⟨?_, ?_⟩
  · exact forall_mem_intercalate (by simp; decide) fun part hpart c hc =>
      (hdigits part hpart c hc).1.1
  · rw [splitAt_intercalate (by simp) (by simp [octets]) fun part hpart c hc =>
      (hdigits part hpart c hc).2]
    intro part hpart
    rw [← Bool.not_eq_true, List.isPrefixOf_iff_prefix]
    intro hmark
    have hx : 'x' ∈ part := hmark.subset (by simp [Domain.mark])
    exact (hdigits part hpart 'x' hx).1.2 rfl

theorem readsBack_ipv4 {kind : Kind} {address : Nat} (hkind : kind ≠ .other)
    (h : address < 4294967296) : (ipv4 address).ReadsBack kind := by
  have hplain := isPlain_ipv4 address
  have hne : (ipv4 address).text.toList ≠ [] := mt String.toList_eq_nil_iff.mp (ipv4_text_ne address)
  refine ⟨isWhole_of_isPlain hplain, ?_⟩
  rw [parseFor, if_neg hkind, parse_of_isPlain hplain hne, if_pos (endsInNumber_ipv4 address)]
  exact parseIpv4_text h

/-- Whether a host is an address or a plain name. -/
def IsPlain : Host → Prop
  | name s => Domain.IsPlain s.toList
  | ipv4 _ | ipv6 _ => True

/-- A host that was read is an address within its range, or a name that spells none. -/
theorem parse_eq_ok (h : parse cs = .ok host) :
    (∃ ps, host = ipv6 ps ∧ ps.length = 8 ∧ ∀ p ∈ ps, p < 65536) ∨
      (∃ address, host = ipv4 address ∧ address < 4294967296) ∨
      ∃ domain, host = name (String.ofList domain) ∧ domain ≠ [] ∧
        endsInNumber domain = false := by
  unfold parse at h
  split at h
  · exact .inl (parseIpv6_eq_ok h)
  · split at h
    · cases h
    · rename_i domain _
      split at h
      · cases h
      · rename_i hempty
        split at h
        · exact .inr (.inl (parseIpv4_eq_ok h))
        · rename_i hnumber
          cases h
          exact .inr (.inr ⟨domain, rfl, by simpa using hempty, by simpa using hnumber⟩)

theorem readsBack_of_parse {kind : Kind} (hkind : kind ≠ .other) (h : parse cs = .ok host)
    (hplain : host.IsPlain) : host.ReadsBack kind := by
  obtain ⟨ps, rfl, hlength, hps⟩ | ⟨address, rfl, haddress⟩ | ⟨domain, rfl, hne, hnumber⟩ :=
    parse_eq_ok h
  · exact readsBack_ipv6 kind hlength hps
  · exact readsBack_ipv4 hkind haddress
  · have hdomain : Domain.IsPlain domain := by
      rwa [IsPlain, String.toList_ofList] at hplain
    refine ⟨?_, ?_⟩
    · rw [text, String.toList_ofList]
      exact isWhole_of_isPlain hdomain
    · rw [text, String.toList_ofList, parseFor, if_neg hkind, parse_of_isPlain hdomain hne,
        if_neg (by simp [hnumber])]

/-- No character of a name outside special schemes is forbidden, and encoding it changes nothing. -/
theorem readsBack_of_parseName (h : parseName cs = .ok host) : host.ReadsBack .other := by
  unfold parseName at h
  split at h
  · obtain ⟨ps, rfl, hlength, hps⟩ := parseIpv6_eq_ok h
    exact readsBack_ipv6 .other hlength hps
  · split at h
    · cases h
    · rename_i hforbidden
      cases h
      have hallowed : ∀ c ∈ percentEncode .controls cs, c ∉ forbidden := by
        have hdigit : ∀ n < 16, upperHex n ∉ forbidden := by decide
        intro c hc hin
        rcases mem_percentEncode hc with ⟨hmem, -⟩ | rfl | ⟨n, hn, rfl⟩
        · exact hforbidden (List.any_eq_true.mpr ⟨c, hmem, List.contains_iff_mem.mpr hin⟩)
        · exact absurd hin (by decide)
        · exact hdigit n hn hin
      have hencoded : percentEncode .controls (percentEncode .controls cs) =
          percentEncode .controls cs :=
        percentEncode_of_forall fun c hc => contains_of_mem_percentEncode hc
      generalize percentEncode .controls cs = encoded at hallowed hencoded
      have hhead : encoded.head? ≠ some '[' := fun hopen =>
        hallowed _ (List.mem_of_head? hopen) (by decide)
      refine ⟨?_, ?_⟩
      · rw [text, String.toList_ofList]
        refine .inl fun c hc => ?_
        refine ⟨?_, ?_⟩ <;> rintro rfl <;> exact hallowed _ hc (by decide)
      · rw [text, String.toList_ofList, parseFor, if_pos rfl, parseName, if_neg hhead,
          if_neg (by simpa using hallowed), hencoded]

/-- A host that was read is read from its own text, unless it is a name that is not plain. -/
theorem readsBack_of_parseFor {kind : Kind} (h : parseFor kind cs = .ok host)
    (hplain : kind ≠ .other → host.IsPlain) : host.ReadsBack kind := by
  unfold parseFor at h
  split at h
  · rename_i hkind
    subst hkind
    exact readsBack_of_parseName h
  · rename_i hkind
    exact readsBack_of_parse hkind h (hplain hkind)

end Host

end FsGateway.Url
