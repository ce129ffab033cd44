import FsGateway.Kernel.DirectoryEntry
import FsGateway.Proofs.Checked
import FsGateway.Proofs.Wire.Raw

/-!
# What is read from the data of a directory

An entry is read where it stands with its name, whatever its type number and its padding are. So data
that is cut off anywhere gives the entries that stand in it with their names, and arbitrary bytes give
entries whose own data is these bytes again, but for types and padding.

* `first?_eq_some_iff`, `first?_eq_none_iff`: the bytes that start with an entry.
* `parse_take_encodeAll`: the entries of data that is cut off.
* `scan?_eq_some`: reading ends, and looks at no byte outside the data.
* `parse_faithful`: the entries of arbitrary bytes, and the bytes at which reading stops.
-/

namespace FsGateway.Kernel.DirectoryEntry

variable {b w : Bytes} {e : DirectoryEntry} {es before after : List DirectoryEntry} {t : UInt32}
  {n : Nat}

/-! ## Words -/

theorem ofNat_eq_inode_iff (h : w.length = 8) :
    UInt64.ofNat (wordValue w) = e.inode ↔ wordBytes 8 e.inode.toNat = w := by
  have hcount : wordCount w.length = UInt64.size := by rw [h]; decide
  have hword := Wire.Raw.ofNat_wordValue_eq_iff (b := w) UInt64.ofNat UInt64.toNat
    e.inode.ofNat_toNat (by rw [hcount]; exact e.inode.toNat_lt)
    (fun v hv => UInt64.toNat_ofNat_of_lt (by rw [hcount] at hv; exact hv))
  rwa [h] at hword

theorem signed64_eq_offset_iff (h : w.length = 8) :
    signed64 (wordValue w) = e.offset ↔ wordBytes 8 e.offset.toUInt64.toNat = w := by
  have hcount : wordCount w.length = UInt64.size := by rw [h]; decide
  have hword := Wire.Raw.ofNat_wordValue_eq_iff (b := w) signed64 (fun n => n.toUInt64.toNat)
    (Wire.Raw.ofNat_toUInt64_toNat e.offset) (by rw [hcount]; exact e.offset.toUInt64.toNat_lt)
    (fun v hv => by rw [hcount] at hv; simpa [signed64] using hv)
  rwa [h] at hword

theorem ofNat_eq_type_iff (h : w.length = 4) :
    UInt32.ofNat (wordValue w) = t ↔ wordBytes 4 t.toNat = w := by
  have hcount : wordCount w.length = UInt32.size := by rw [h]; decide
  have hword := Wire.Raw.ofNat_wordValue_eq_iff (b := w) UInt32.ofNat UInt32.toNat t.ofNat_toNat
    (by rw [hcount]; exact t.toNat_lt)
    (fun v hv => UInt32.toNat_ofNat_of_lt (by rw [hcount] at hv; exact hv))
  rwa [h] at hword

theorem wordValue_eq_iff {v : Nat} (h : w.length = n) :
    wordValue w = v ↔ v < wordCount n ∧ wordBytes n v = w := by
  subst h
  constructor
  · intro hv
    subst hv
    exact ⟨wordValue_lt w, wordBytes_wordValue w⟩
  · intro ⟨hlt, hw⟩
    rw [← hw, wordValue_wordBytes, Nat.mod_eq_of_lt hlt]

/-! ## One entry -/

/-- The inode, the offset and the length of the name. -/
def numbers (e : DirectoryEntry) : Bytes :=
  wordBytes 8 e.inode.toNat ++ wordBytes 8 e.offset.toUInt64.toNat ++ wordBytes 4 e.name.length

/-- An entry up to the end of its name, with a type number of its own. -/
def written (e : DirectoryEntry) (t : UInt32) : Bytes := e.numbers ++ wordBytes 4 t.toNat ++ e.name

/-- The zeros after the name. -/
def padding (e : DirectoryEntry) : Bytes :=
  List.replicate (paddedLength e.name.length - (headerLength + e.name.length)) 0

/-- The number of bytes of the name, as the header has it. -/
def nameLength (b : Bytes) : Nat := wordValue ((b.drop 16).take 4)

theorem encode_eq (e : DirectoryEntry) : e.encode = e.written e.kind.entryType ++ e.padding := rfl

@[simp] theorem length_numbers (e : DirectoryEntry) : e.numbers.length = 20 := by
  simp only [numbers, List.length_append, length_wordBytes]

@[simp] theorem length_written (e : DirectoryEntry) (t : UInt32) :
    (e.written t).length = headerLength + e.name.length := by
  simp only [written, List.length_append, length_numbers, length_wordBytes, headerLength]

theorem le_paddedLength (n : Nat) : headerLength + n ≤ paddedLength n := by
  unfold paddedLength
  omega

@[simp] theorem length_encode (e : DirectoryEntry) : e.encode.length = paddedLength e.name.length := by
  have hle := le_paddedLength e.name.length
  rw [encode_eq, List.length_append, length_written, padding, List.length_replicate]
  omega

/-- The parts of an entry stand at their positions. -/
theorem written_eq_take_iff (hlong : headerLength + n ≤ b.length) (hn : e.name.length = n) :
    e.written t = b.take (headerLength + n) ↔
      wordBytes 8 e.inode.toNat = b.take 8 ∧
      wordBytes 8 e.offset.toUInt64.toNat = (b.drop 8).take 8 ∧
      wordBytes 4 e.name.length = (b.drop 16).take 4 ∧
      wordBytes 4 t.toNat = (b.drop 20).take 4 ∧ e.name = (b.drop headerLength).take n := by
  have hheader : headerLength = 24 := rfl
  have hsplit : b.take (headerLength + n) = b.take 8 ++ (b.drop 8).take 8 ++ (b.drop 16).take 4 ++
      (b.drop 20).take 4 ++ (b.drop headerLength).take n := by
    rw [List.take_add, ← List.take_add (i := 8), ← List.take_add (i := 16),
      ← List.take_add (i := 20), hheader]
  rw [hsplit, written, numbers]
  constructor
  · intro heq
    obtain ⟨heq, hname⟩ := List.append_inj' heq (by rw [List.length_take, List.length_drop]; omega)
    obtain ⟨heq, htype⟩ := List.append_inj' heq (by simp; omega)
    obtain ⟨heq, hlength⟩ := List.append_inj' heq (by simp; omega)
    obtain ⟨hinode, hoffset⟩ := List.append_inj' heq (by simp; omega)
    exact ⟨hinode, hoffset, hlength, htype, hname⟩
  · intro ⟨hinode, hoffset, hlength, htype, hname⟩
    rw [hinode, hoffset, hlength, htype, ← hname]

theorem le_length_of_written (h : e.written t <+: b) : headerLength + e.name.length ≤ b.length := by
  rw [← length_written e t]
  exact h.length_le

theorem parts_of_written (h : e.written t <+: b) :
    wordBytes 8 e.inode.toNat = b.take 8 ∧
      wordBytes 8 e.offset.toUInt64.toNat = (b.drop 8).take 8 ∧
      wordBytes 4 e.name.length = (b.drop 16).take 4 ∧
      wordBytes 4 t.toNat = (b.drop 20).take 4 ∧
      e.name = (b.drop headerLength).take e.name.length := by
  refine (written_eq_take_iff (le_length_of_written h) rfl).mp ?_
  rw [← length_written e t]
  exact List.prefix_iff_eq_take.mp h

theorem written_encode_append (e : DirectoryEntry) (rest : Bytes) :
    e.written e.kind.entryType <+: e.encode ++ rest := by
  rw [encode_eq, List.append_assoc]
  exact List.prefix_append _ _

theorem first?_eq_none_iff : first? b = none ↔
    b.length < headerLength ∨ nameLength b = 0 ∨ b.length < headerLength + nameLength b := by
  unfold first? nameLength
  by_cases hshort : b.length < headerLength
  · simp [hshort]
  · by_cases hname : wordValue ((b.drop 16).take 4) = 0 ∨
        b.length < headerLength + wordValue ((b.drop 16).take 4)
    · simp [hshort, hname]
    · simp [hshort, hname]

theorem first?_eq_some_iff_reads : first? b = some e ↔
    nameLength b ≠ 0 ∧ headerLength + nameLength b ≤ b.length ∧
      UInt64.ofNat (wordValue (b.take 8)) = e.inode ∧
      signed64 (wordValue ((b.drop 8).take 8)) = e.offset ∧
      FileKind.ofEntryType (UInt32.ofNat (wordValue ((b.drop 20).take 4))) = e.kind ∧
      (b.drop headerLength).take (nameLength b) = e.name := by
  obtain ⟨inode, offset, kind, name⟩ := e
  by_cases hnone : first? b = none
  · have hbad := first?_eq_none_iff.mp hnone
    refine iff_of_false (by simp [hnone]) fun h => ?_
    omega
  · have hgood := mt first?_eq_none_iff.mpr hnone
    have hshort : ¬ b.length < headerLength := by omega
    have hname : ¬ (nameLength b = 0 ∨ b.length < headerLength + nameLength b) := by omega
    have hread : first? b = some ⟨UInt64.ofNat (wordValue (b.take 8)),
        signed64 (wordValue ((b.drop 8).take 8)),
        FileKind.ofEntryType (UInt32.ofNat (wordValue ((b.drop 20).take 4))),
        (b.drop headerLength).take (nameLength b)⟩ := by
      rw [first?, if_neg hshort]
      exact if_neg hname
    have hpos : nameLength b ≠ 0 := by omega
    have hlong : headerLength + nameLength b ≤ b.length := by omega
    rw [hread, Option.some.injEq, DirectoryEntry.mk.injEq]
    simp only [hpos, hlong, ne_eq, not_false_eq_true, true_and]

theorem length_name_of_first (h : first? b = some e) : e.name.length = nameLength b := by
  obtain ⟨-, hlong, -, -, -, hname⟩ := first?_eq_some_iff_reads.mp h
  rw [← hname, List.length_take, List.length_drop]
  omega

/-- An entry is read where it stands with its name, under any type number of its kind. -/
theorem first?_eq_some_iff : first? b = some e ↔ e.name ≠ [] ∧ e.name.length < UInt32.size ∧
    ∃ t, FileKind.ofEntryType t = e.kind ∧ e.written t <+: b := by
  have hheader : headerLength = 24 := rfl
  have hcount : wordCount 4 = UInt32.size := by decide
  constructor
  · intro h
    have hlength := length_name_of_first h
    obtain ⟨hpos, hlong, hinode, hoffset, hkind, hname⟩ := first?_eq_some_iff_reads.mp h
    obtain ⟨hlt, hword⟩ := (wordValue_eq_iff (n := 4) (by simp; omega)).mp (Eq.refl (nameLength b))
    have hinode' := (ofNat_eq_inode_iff (by simp; omega)).mp hinode
    have hoffset' := (signed64_eq_offset_iff (by simp; omega)).mp hoffset
    have hlength' : wordBytes 4 e.name.length = (b.drop 16).take 4 := by rw [hlength, hword]
    have htype := (ofNat_eq_type_iff (w := (b.drop 20).take 4) (by simp; omega)).mp rfl
    refine ⟨List.ne_nil_of_length_pos (by omega), by omega, _, hkind, ?_⟩
    rw [(written_eq_take_iff hlong hlength).mpr ⟨hinode', hoffset', hlength', htype, hname.symm⟩]
    exact List.take_prefix _ _
  · intro ⟨hname, hlt, t, hkind, hstarts⟩
    have hpos := List.length_pos_iff.mpr hname
    have hlong := le_length_of_written hstarts
    obtain ⟨hinode, hoffset, hlength, htype, hbytes⟩ := parts_of_written hstarts
    have hread : nameLength b = e.name.length :=
      (wordValue_eq_iff (by simp; omega)).mpr ⟨by omega, hlength⟩
    rw [first?_eq_some_iff_reads, hread, (ofNat_eq_type_iff (by simp; omega)).mpr htype]
    exact ⟨by omega, hlong, (ofNat_eq_inode_iff (by simp; omega)).mpr hinode,
      (signed64_eq_offset_iff (by simp; omega)).mpr hoffset, hkind, hbytes.symm⟩

/-! ## Entries one after another -/

@[simp] theorem encodeAll_cons (e : DirectoryEntry) (es : List DirectoryEntry) :
    encodeAll (e :: es) = e.encode ++ encodeAll es := List.flatMap_cons

@[simp] theorem encodeAll_append (es es' : List DirectoryEntry) :
    encodeAll (es ++ es') = encodeAll es ++ encodeAll es' := List.flatMap_append

theorem parse_eq_nil_iff : parse b = [] ↔ first? b = none := by
  rw [parse]
  split
  · rename_i h
    simp [h]
  · rename_i h
    simp [h]

theorem parse_eq_cons_iff : parse b = e :: es ↔
    first? b = some e ∧ parse (b.drop (paddedLength e.name.length)) = es := by
  rw [parse]
  split
  · rename_i h
    simp [h]
  · rename_i e' h
    rw [h, Option.some.injEq, List.cons.injEq]
    constructor
    · intro h
      obtain ⟨he, hes⟩ := h
      exact ⟨he, he ▸ hes⟩
    · intro h
      obtain ⟨he, hes⟩ := h
      exact ⟨he, he ▸ hes⟩

/-! ## Data that is cut off -/

/-- Every entry stands with its name in the first bytes of the data of all. -/
def StandWithin (n : Nat) (es : List DirectoryEntry) : Prop :=
  ∀ before e after, es = before ++ e :: after →
    (encodeAll before).length + (headerLength + e.name.length) ≤ n

theorem standWithin_nil (n : Nat) : StandWithin n [] := by
  intro before e after h
  simp at h

theorem standWithin_cons_iff : StandWithin n (e :: es) ↔
    headerLength + e.name.length ≤ n ∧ StandWithin (n - paddedLength e.name.length) es := by
  have hheader : headerLength = 24 := rfl
  constructor
  · intro h
    refine ⟨by simpa [encodeAll] using h [] e es rfl, ?_⟩
    intro before e' after heq
    have := h (e :: before) e' after (by rw [heq]; rfl)
    rw [encodeAll_cons, List.length_append, length_encode] at this
    omega
  · intro ⟨hfirst, hrest⟩ before e' after heq
    cases before with
    | nil =>
      cases heq
      simpa [encodeAll] using hfirst
    | cons e'' before =>
      obtain ⟨rfl, hes⟩ := List.cons.inj heq
      have := hrest before e' after hes
      rw [encodeAll_cons, List.length_append, length_encode]
      omega

/-- An entry is read from data that is cut off where its name is not. -/
theorem first?_take_encode (hname : e.name ≠ []) (hlt : e.name.length < UInt32.size) (rest : Bytes)
    (n : Nat) : first? ((e.encode ++ rest).take n) =
      if headerLength + e.name.length ≤ n then some e else none := by
  have hheader : headerLength = 24 := rfl
  have hcount : wordCount 4 = UInt32.size := by decide
  have hstarts := written_encode_append e rest
  have hlong := le_length_of_written hstarts
  by_cases hn : headerLength + e.name.length ≤ n
  · rw [if_pos hn, first?_eq_some_iff]
    refine ⟨hname, hlt, _, FileKind.ofEntryType_entryType e.kind, ?_⟩
    rw [List.prefix_take_iff, length_written]
    exact ⟨hstarts, hn⟩
  · rw [if_neg hn, first?_eq_none_iff, List.length_take]
    by_cases hhead : headerLength ≤ n
    · -- the header is there, and says how long the name is
      obtain ⟨-, -, hlength, -, -⟩ := parts_of_written hstarts
      have hread : nameLength ((e.encode ++ rest).take n) = e.name.length := by
        unfold nameLength
        rw [List.drop_take, List.take_take, Nat.min_eq_left (by omega), ← hlength, wordValue_wordBytes,
          Nat.mod_eq_of_lt (by omega)]
      rw [hread]
      omega
    · omega

theorem parse_take_cons (hname : e.name ≠ []) (hlt : e.name.length < UInt32.size)
    (es : List DirectoryEntry) (n : Nat) : parse ((encodeAll (e :: es)).take n) =
      if headerLength + e.name.length ≤ n then
        e :: parse ((encodeAll es).take (n - paddedLength e.name.length))
      else [] := by
  have hfirst := first?_take_encode hname hlt (encodeAll es) n
  rw [encodeAll_cons]
  by_cases hn : headerLength + e.name.length ≤ n
  · rw [if_pos hn] at hfirst ⊢
    refine parse_eq_cons_iff.mpr ⟨hfirst, ?_⟩
    rw [List.drop_take, List.drop_left' (length_encode e)]
  · rw [if_neg hn] at hfirst ⊢
    exact parse_eq_nil_iff.mpr hfirst

/-- What is read is the longest part of the entries that stands in the bytes that are left. -/
theorem prefix_parse_take_iff (hnames : ∀ e ∈ es, 1 ≤ e.name.length ∧ e.name.length < UInt32.size)
    (n : Nat) : parse ((encodeAll es).take n) <+: es ∧
      ∀ p, p <+: es → (p <+: parse ((encodeAll es).take n) ↔ StandWithin n p) := by
  induction es generalizing n with
  | nil =>
    have hnil : parse (([] : Bytes).take n) = [] := by
      rw [List.take_nil, parse_eq_nil_iff, first?_eq_none_iff]
      exact .inl (by decide)
    refine ⟨List.prefix_nil.mpr hnil, fun p hp => ?_⟩
    rw [List.prefix_nil.mp hp]
    exact iff_of_true (List.nil_prefix) (standWithin_nil n)
  | cons e es ih =>
    obtain ⟨hpos, hlt⟩ := hnames e List.mem_cons_self
    obtain ⟨hread, hlongest⟩ := ih (fun e' he' => hnames e' (List.mem_cons_of_mem _ he'))
      (n - paddedLength e.name.length)
    rw [parse_take_cons (List.ne_nil_of_length_pos hpos) hlt es n]
    by_cases hn : headerLength + e.name.length ≤ n
    · rw [if_pos hn]
      refine ⟨(List.prefix_cons_inj e).mpr hread, fun p hp => ?_⟩
      cases p with
      | nil => exact iff_of_true List.nil_prefix (standWithin_nil n)
      | cons e' p =>
        obtain ⟨rfl, hrest⟩ := List.cons_prefix_cons.mp hp
        rw [List.prefix_cons_inj, hlongest p hrest, standWithin_cons_iff]
        exact (and_iff_right hn).symm
    · rw [if_neg hn]
      refine ⟨List.nil_prefix, fun p hp => ?_⟩
      cases p with
      | nil => exact iff_of_true List.nil_prefix (standWithin_nil n)
      | cons e' p =>
        obtain ⟨rfl, -⟩ := List.cons_prefix_cons.mp hp
        refine iff_of_false (by simp) fun h => hn (standWithin_cons_iff.mp h).1

theorem standWithin_length (es : List DirectoryEntry) : StandWithin (encodeAll es).length es := by
  intro before e after h
  have hle := le_paddedLength e.name.length
  rw [h, encodeAll_append, encodeAll_cons, List.length_append, List.length_append, length_encode]
  omega

/-- The data of entries that is cut off after any number of bytes gives the entries up to the first
that does not stand in it with its name, and data that is not cut off gives all. -/
theorem parse_take_encodeAll (es : List DirectoryEntry)
    (hnames : ∀ e ∈ es, 1 ≤ e.name.length ∧ e.name.length < UInt32.size) :
    (∀ n, parse ((encodeAll es).take n) <+: es ∧
      StandWithin n (parse ((encodeAll es).take n)) ∧
      ∀ p, p <+: es → StandWithin n p → p <+: parse ((encodeAll es).take n)) ∧
    parse (encodeAll es) = es := by
  have hcut : ∀ n, parse ((encodeAll es).take n) <+: es ∧
      StandWithin n (parse ((encodeAll es).take n)) ∧
      ∀ p, p <+: es → StandWithin n p → p <+: parse ((encodeAll es).take n) := by
    intro n
    obtain ⟨hread, hlongest⟩ := prefix_parse_take_iff hnames n
    exact ⟨hread, (hlongest _ hread).mp (List.prefix_refl _), fun p hp => (hlongest p hp).mpr⟩
  refine ⟨hcut, ?_⟩
  obtain ⟨hread, -, hlongest⟩ := hcut (encodeAll es).length
  have hall := hlongest es (List.prefix_refl es) (standWithin_length es)
  rw [List.take_length] at hread hall
  exact hread.eq_of_length_le hall.length_le

/-- A directory and a file with a name that is padded. -/
def sampleEntries : List DirectoryEntry :=
  [⟨1, 1, .directory, [46]⟩, ⟨42, -7, .regularFile, [104, 101, 108, 108, 111]⟩]

/-- The second entry is read from the byte on that ends its name. -/
theorem parse_take_encodeAll_sample :
    (∀ e ∈ sampleEntries, 1 ≤ e.name.length ∧ e.name.length < UInt32.size) ∧
      parse ((encodeAll sampleEntries).take 61) = sampleEntries ∧
      ¬ sampleEntries <+: parse ((encodeAll sampleEntries).take 60) ∧
      parse (encodeAll sampleEntries) = sampleEntries := by
  have hnames : ∀ e ∈ sampleEntries, 1 ≤ e.name.length ∧ e.name.length < UInt32.size := by decide
  obtain ⟨hcut, hall⟩ := parse_take_encodeAll sampleEntries hnames
  obtain ⟨hread, -, hlongest⟩ := hcut 61
  obtain ⟨-, hwithin, -⟩ := hcut 60
  have hstand : ∀ n, StandWithin n sampleEntries ↔ 61 ≤ n := by
    intro n
    simp [sampleEntries, standWithin_cons_iff, standWithin_nil, headerLength, paddedLength]
    omega
  refine ⟨hnames, ?_, fun h => ?_, hall⟩
  · have hstarts := hlongest _ (List.prefix_refl _) ((hstand 61).mpr (by omega))
    exact hread.eq_of_length_le hstarts.length_le
  · have heq := (hcut 60).1.eq_of_length_le h.length_le
    rw [heq] at hwithin
    exact absurd ((hstand 60).mp hwithin) (by omega)

/-! ## Looking at bytes -/

/-- What one round of reading does: it finds no entry, or one and the bytes after it. Every range of
bytes is looked up. Sizes are taken to be words of 64 bits, so the sums here, of a length of 32 bits
and a few bytes more, do not overflow. -/
def round? (b : Bytes) : Option (Option (DirectoryEntry × Bytes)) :=
  if b.length < headerLength then some none
  else do
    let inode ← Checked.slice? b 0 8
    let offset ← Checked.slice? b 8 16
    let length ← Checked.slice? b 16 20
    let type ← Checked.slice? b 20 24
    let n := wordValue length
    if n = 0 ∨ b.length < headerLength + n then pure none
    else do
      let name ← Checked.slice? b headerLength (headerLength + n)
      let rest ← Checked.slice? b (min (paddedLength n) b.length) b.length
      let kind := FileKind.ofEntryType (UInt32.ofNat (wordValue type))
      let e := ⟨UInt64.ofNat (wordValue inode), signed64 (wordValue offset), kind, name⟩
      pure (some (e, rest))

/-- Reading round by round; it has no result if it does not end within a number of rounds. -/
def scan? : (rounds : Nat) → Bytes → Option (List DirectoryEntry)
  | 0, _ => none
  | rounds + 1, b => do
    match ← round? b with
    | none => pure []
    | some (e, rest) => return e :: (← scan? rounds rest)

theorem round?_eq_some (b : Bytes) : round? b =
    some ((first? b).map fun e => (e, b.drop (paddedLength e.name.length))) := by
  have hheader : headerLength = 24 := rfl
  by_cases hshort : b.length < headerLength
  · rw [round?, if_pos hshort, first?_eq_none_iff.mpr (.inl hshort)]
    rfl
  · rw [round?, if_neg hshort, Checked.slice?_take (by omega),
      Checked.slice?_eq_some (by omega) (by omega), Checked.slice?_eq_some (by omega) (by omega),
      Checked.slice?_eq_some (by omega) (by omega)]
    simp only [Option.bind_eq_bind, Option.bind_some, Option.pure_def, Nat.reduceSub]
    rw [← nameLength]
    cases hfirst : first? b with
    | none =>
      rw [if_pos ((first?_eq_none_iff.mp hfirst).resolve_left hshort)]
      rfl
    | some e =>
      have hlength := length_name_of_first hfirst
      obtain ⟨hpos, hlong, hinode, hoffset, hkind, hname⟩ := first?_eq_some_iff_reads.mp hfirst
      have hrest : Checked.slice? b (min (paddedLength (nameLength b)) b.length) b.length =
          some (b.drop (paddedLength e.name.length)) := by
        rw [Checked.slice?_drop (Nat.min_le_right _ _), hlength]
        by_cases hcut : paddedLength (nameLength b) ≤ b.length
        · rw [Nat.min_eq_left hcut]
        · rw [Nat.min_eq_right (by omega), List.drop_length, List.drop_eq_nil_of_le (by omega)]
      rw [if_neg (by omega), Checked.slice?_eq_some (by omega) hlong, hrest, Nat.add_sub_cancel_left,
        hinode, hoffset, hkind, hname]
      rfl

/-- Reading ends within as many rounds as there are bytes, and no round looks outside of them. -/
theorem scan?_eq_some {rounds : Nat} (h : b.length < rounds) : scan? rounds b = some (parse b) := by
  induction rounds generalizing b with
  | zero => omega
  | succ rounds ih =>
    rw [scan?, round?_eq_some]
    cases hfirst : first? b with
    | none =>
      rw [parse_eq_nil_iff.mpr hfirst]
      rfl
    | some e =>
      obtain ⟨hpos, hlong, -⟩ := first?_eq_some_iff_reads.mp hfirst
      have hle := le_paddedLength e.name.length
      have hrest := ih (b := b.drop (paddedLength e.name.length)) (by
        have hheader : headerLength = 24 := rfl
        rw [List.length_drop]
        omega)
      rw [parse_eq_cons_iff.mpr ⟨hfirst, rfl⟩]
      simp only [Option.map_some, Option.bind_eq_bind, Option.bind_some, hrest, Option.pure_def]

/-! ## Arbitrary bytes -/

/-- The entries after others are read from the bytes after theirs. -/
theorem parse_drop (h : parse b = before ++ after) :
    parse (b.drop (encodeAll before).length) = after := by
  induction before generalizing b with
  | nil => exact h
  | cons e before ih =>
    obtain ⟨-, hrest⟩ := parse_eq_cons_iff.mp h
    rw [encodeAll_cons, List.length_append, length_encode, ← List.drop_drop]
    exact ih hrest

theorem first?_drop (h : parse b = before ++ e :: after) :
    first? (b.drop (encodeAll before).length) = some e :=
  (parse_eq_cons_iff.mp (parse_drop h)).1

theorem length_encodeAll_parse_le (b : Bytes) :
    (encodeAll (parse b)).length ≤ (b.length + 7) / 8 * 8 := by
  fun_induction parse b with
  | case1 b hfirst => simp [encodeAll]
  | case2 b e hfirst ih =>
    obtain ⟨hpos, hlong, -⟩ := first?_eq_some_iff_reads.mp hfirst
    rw [← length_name_of_first hfirst] at hlong
    rw [encodeAll_cons, List.length_append, length_encode]
    rw [List.length_drop] at ih
    unfold paddedLength at ih ⊢
    omega

/-- The type number makes no difference outside its own four bytes. -/
theorem getElem?_written (e : DirectoryEntry) (t u : UInt32) {i : Nat}
    (h : i < 20 ∨ headerLength ≤ i) : (e.written t)[i]? = (e.written u)[i]? := by
  have hheader : headerLength = 24 := rfl
  rw [written, written, List.append_assoc, List.append_assoc]
  by_cases hi : i < 20
  · rw [List.getElem?_append_left (by rw [length_numbers]; exact hi),
      List.getElem?_append_left (by rw [length_numbers]; exact hi)]
  · have hafter : ∀ v : UInt32,
        (e.numbers ++ (wordBytes 4 v.toNat ++ e.name))[i]? = e.name[i - 20 - 4]? := by
      intro v
      rw [List.getElem?_append_right (by rw [length_numbers]; omega), length_numbers,
        List.getElem?_append_right (by rw [length_wordBytes]; omega), length_wordBytes]
    rw [hafter, hafter]

theorem getElem?_of_written (h : e.written t <+: b) {i : Nat}
    (hi : i < headerLength + e.name.length) : b[i]? = (e.written t)[i]? := by
  obtain ⟨rest, rfl⟩ := h
  exact List.getElem?_append_left (by rw [length_written]; exact hi)

/-- Two byte strings have the same entry at a position, but for its type number, of which the first
has the canonical form, and for what follows the name. -/
structure Agrees (a b : Bytes) (start : Nat) (e : DirectoryEntry) : Prop where
  inside : start + (headerLength + e.name.length) ≤ b.length
  same : ∀ i < headerLength + e.name.length, i < 20 ∨ headerLength ≤ i →
    a[start + i]? = b[start + i]?
  type : ∃ t, (b.drop (start + 20)).take 4 = wordBytes 4 t.toNat ∧
    (a.drop (start + 20)).take 4 = wordBytes 4 (FileKind.ofEntryType t).entryType.toNat

theorem agrees_of_written {a : Bytes} {start : Nat} (hkind : FileKind.ofEntryType t = e.kind)
    (ha : e.written e.kind.entryType <+: a.drop start) (hb : e.written t <+: b.drop start) :
    Agrees a b start e where
  inside := by
    have hheader : headerLength = 24 := rfl
    have hlong := le_length_of_written hb
    rw [List.length_drop] at hlong
    omega
  same i hi hout := by
    rw [← List.getElem?_drop, ← List.getElem?_drop, getElem?_of_written ha hi,
      getElem?_of_written hb hi, getElem?_written e e.kind.entryType t hout]
  type := by
    obtain ⟨-, -, -, htype, -⟩ := parts_of_written hb
    obtain ⟨-, -, -, hcanonical, -⟩ := parts_of_written ha
    rw [List.drop_drop] at htype hcanonical
    exact ⟨t, htype.symm, by rw [hkind]; exact hcanonical.symm⟩

theorem drop_encodeAll (before after : List DirectoryEntry) :
    (encodeAll (before ++ after)).drop (encodeAll before).length = encodeAll after := by
  rw [encodeAll_append, List.drop_left]

/-- Reading stops at bytes that are too few for a header, and at a header that has no name or one that
is cut off. -/
def Stops (rest : Bytes) : Prop :=
  rest.length < headerLength ∨ nameLength rest = 0 ∨ rest.length - headerLength < nameLength rest

/-- Reading arbitrary bytes ends and looks at no byte outside of them. Every entry that is read has a
name, and the data of the entries is the bytes again, but for types and padding. -/
theorem parse_faithful (b : Bytes) :
    scan? (b.length + 1) b = some (parse b) ∧
    (∀ e ∈ parse b, e.name ≠ []) ∧
    (encodeAll (parse b)).length ≤ (b.length + 7) / 8 * 8 ∧
    (∀ before e after, parse b = before ++ e :: after →
      Agrees (encodeAll (parse b)) b (encodeAll before).length e) ∧
    Stops (b.drop (encodeAll (parse b)).length) := by
  refine ⟨scan?_eq_some (Nat.lt_succ_self _), ?_, length_encodeAll_parse_le b, ?_, ?_⟩
  · intro e he
    obtain ⟨before, after, h⟩ := List.append_of_mem he
    exact (first?_eq_some_iff.mp (first?_drop h)).1
  · intro before e after h
    obtain ⟨-, -, t, hkind, hstarts⟩ := first?_eq_some_iff.mp (first?_drop h)
    refine agrees_of_written hkind ?_ hstarts
    rw [h, drop_encodeAll, encodeAll_cons]
    exact written_encode_append e (encodeAll after)
  · have hend : parse (b.drop (encodeAll (parse b)).length) = [] :=
      parse_drop (List.append_nil _).symm
    have hstop := first?_eq_none_iff.mp (parse_eq_nil_iff.mp hend)
    unfold Stops
    omega

/-- A directory. -/
def sampleDirectory : DirectoryEntry := ⟨1, -1, .directory, [46]⟩

/-- An entry under another type number of its kind, with padding that is not zero, and then a header
whose name is cut off. -/
def sampleBytes : Bytes :=
  sampleDirectory.written 0xFFFFFFF4 ++ List.replicate 7 9 ++ List.replicate 30 1

theorem parse_faithful_sample :
    parse sampleBytes = [] ++ sampleDirectory :: [] ∧
      scan? 63 sampleBytes = some [sampleDirectory] ∧
      Agrees sampleDirectory.encode sampleBytes 0 sampleDirectory ∧
      Stops (sampleBytes.drop 32) := by
  have hfirst : first? sampleBytes = some sampleDirectory := by
    rw [first?_eq_some_iff]
    refine ⟨by decide, by decide, 0xFFFFFFF4, by decide, ?_⟩
    rw [sampleBytes, List.append_assoc]
    exact List.prefix_append _ _
  have hparse : parse sampleBytes = [sampleDirectory] := by
    refine parse_eq_cons_iff.mpr ⟨hfirst, parse_eq_nil_iff.mpr (first?_eq_none_iff.mpr ?_)⟩
    decide
  obtain ⟨hscan, -, -, hagrees, hstops⟩ := parse_faithful sampleBytes
  rw [hparse] at hscan hagrees hstops
  exact ⟨hparse, hscan, hagrees [] sampleDirectory [] rfl, hstops⟩

end FsGateway.Kernel.DirectoryEntry
