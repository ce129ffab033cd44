import FsGateway.Proofs.Outcome
import FsGateway.Wire.Raw

/-!
# Which payloads the raw encoding accepts

A payload that is decoded is the payload of its values, up to two things: a truth value may be any
nonzero byte where it is written as one, and a payload without fields of varying length may be
followed by anything. `normalise` removes both. So decoding accepts what encoding produces, up to
normalisation, and nothing else.

* `Escape.read_eq_ok_iff`: an escaped field has one written form.
* `decodeHead_eq_iff`, `decodeTail_eq_ok_iff`: the two parts of a payload.
* `decode_eq_ok_iff_encode`: the payloads that are decoded, and what two of them have in common that
  have the same values.
-/

namespace FsGateway.Wire

/-! ## Escaped fields -/

namespace Escape

theorem write_cons (b : UInt8) (value : Bytes) : write (b :: value) = escape b ++ write value := by
  simp [write, List.flatMap_cons]

theorem eq_write_of_readAt {offset : Nat} {input value rest : Bytes}
    (h : readAt offset input = .ok (value, rest)) : input = write value ++ rest := by
  have hescape : escape backslash = [backslash, backslash] := by decide
  have hnewline : escape newline = [backslash, letterN] := by decide
  fun_induction readAt offset input generalizing value rest with
  | case1 offset => cases h
  | case2 offset input =>
    cases h
    rfl
  | case3 offset => cases h
  | case4 offset input hne ih =>
    obtain ⟨r, hr, heq⟩ := Outcome.map_eq_ok_iff.mp h
    cases heq
    rw [write_cons, hescape, ih hr]
    rfl
  | case5 offset input hne hn ih =>
    obtain ⟨r, hr, heq⟩ := Outcome.map_eq_ok_iff.mp h
    cases heq
    rw [write_cons, hnewline, ih hr]
    rfl
  | case6 offset c input => cases h
  | case7 offset b input hb hb' ih =>
    obtain ⟨r, hr, heq⟩ := Outcome.map_eq_ok_iff.mp h
    cases heq
    have hplain : escape b = [b] := by rw [escape, if_neg hb', if_neg hb]
    rw [write_cons, hplain, ih hr]
    rfl

/-- An escaped field has one written form. -/
theorem read_eq_ok_iff {input value rest : Bytes} :
    read input = .ok (value, rest) ↔ input = write value ++ rest := by
  constructor
  · exact eq_write_of_readAt
  · rintro rfl
    exact read_write value rest

end Escape

namespace Raw

variable {l : Layout} {values : List FieldValue} {body : Bytes}

/-! ## Types -/

theorem checkEach_eq_ok_iff {fields : List Field} (h : values.length = fields.length) :
    checkEach fields values = .ok () ↔ values.map (·.type) = fields.map (·.type) := by
  induction fields generalizing values with
  | nil => simp [checkEach, List.length_eq_zero_iff.mp h]
  | cons f fields ih =>
    cases values with
    | nil => cases h
    | cons v values =>
      rw [checkEach, List.map_cons, List.map_cons, List.cons.injEq, ← ih (Nat.succ.inj h)]
      by_cases htype : f.type = v.type
      · simp [htype]
      · simp [htype, Ne.symm htype]

/-- Values pass where they have the types of the fields, one by one. -/
theorem checkTypes_eq_ok_iff {fields : List Field} :
    checkTypes fields values = .ok () ↔ values.map (·.type) = fields.map (·.type) := by
  have hlength : values.map (·.type) = fields.map (·.type) → values.length = fields.length := by
    intro h
    simpa using congrArg List.length h
  unfold checkTypes
  split
  · rename_i f hf
    obtain ⟨hlt, -⟩ := List.getElem?_eq_some_iff.mp hf
    refine iff_of_false (fun h => by cases h) fun h => ?_
    exact absurd (hlength h) (Nat.ne_of_lt hlt)
  · rename_i hnone
    have hle := List.getElem?_eq_none_iff.mp hnone
    by_cases hmore : fields.length < values.length
    · refine iff_of_false ?_ fun h => absurd (hlength h) (Nat.ne_of_gt hmore)
      intro h
      obtain ⟨u, -, hthen⟩ := Outcome.bind_eq_ok_iff.mp h
      rw [if_pos hmore] at hthen
      cases hthen
    · have heq : values.length = fields.length := Nat.le_antisymm (Nat.not_lt.mp hmore) hle
      rw [← checkEach_eq_ok_iff heq, if_neg hmore, Outcome.bind_eq_ok_iff]
      constructor
      · rintro ⟨u, hu, -⟩
        exact hu
      · intro h
        exact ⟨(), h, rfl⟩

/-- Values of the types of a layout's fields are those of the prefix and those after it. -/
theorem map_type_fields_iff : values.map (·.type) = l.fields.map (·.type) ↔
    ∃ first last, values = first ++ last ∧
      first.map (·.type) = l.head.map (fun f => .fixed f.type) ∧
      last.map (·.type) = l.tail.map (fun f => .varying f.type) := by
  have hfields : l.fields.map (·.type) =
      l.head.map (fun f => .fixed f.type) ++ l.tail.map (fun f => .varying f.type) := by
    rw [Layout.fields, List.map_append, List.map_map, List.map_map]
    rfl
  rw [hfields]
  constructor
  · intro htypes
    exact List.map_eq_append_iff.mp htypes
  · rintro ⟨first, last, rfl, hfirst, hlast⟩
    rw [List.map_append, hfirst, hlast]

/-- The values that are encoded are those of the prefix and those after it. -/
theorem encode_eq_ok_iff : encode l values = .ok body ↔ ∃ first last, values = first ++ last ∧
    first.map (·.type) = l.head.map (fun f => .fixed f.type) ∧
    last.map (·.type) = l.tail.map (fun f => .varying f.type) ∧
    body = first.flatMap (·.bytes) ++ frame l.shape last := by
  rw [encode, Outcome.bind_eq_ok_iff]
  constructor
  · rintro ⟨u, hcheck, hbody⟩
    cases hbody
    obtain ⟨first, last, rfl, hfirst, hlast⟩ :=
      map_type_fields_iff.mp (checkTypes_eq_ok_iff.mp hcheck)
    have hlength : first.length = l.head.length := by simpa using congrArg List.length hfirst
    refine ⟨first, last, rfl, hfirst, hlast, ?_⟩
    rw [← hlength, List.take_left, List.drop_left]
  · rintro ⟨first, last, rfl, hfirst, hlast, rfl⟩
    have hlength : first.length = l.head.length := by simpa using congrArg List.length hfirst
    have htypes := map_type_fields_iff.mpr ⟨first, last, rfl, hfirst, hlast⟩
    refine ⟨(), checkTypes_eq_ok_iff.mpr htypes, congrArg Except.ok ?_⟩
    rw [← hlength, List.take_left, List.drop_left]

/-! ## The prefix -/

/-- The number of bytes of fields of fixed width. -/
def headWidth (fields : List (Named FixedType)) : Nat := fields.foldr (fun f n => f.type.width + n) 0

/-- Whether a truth value stands at a position of the prefix. -/
def isFlag : List (Named FixedType) → Nat → Bool
  | [], _ => false
  | f :: fields, i => if i < f.type.width then f.type = .bool else isFlag fields (i - f.type.width)

/-- A byte at a position of a payload, which is one if it is a truth value that is not false. -/
def normaliseByte (fields : List (Named FixedType)) (i : Nat) (b : UInt8) : UInt8 :=
  if isFlag fields i = true ∧ b ≠ 0 then 1 else b

/-- The payload with every nonzero truth value written as one, and without the bytes after the prefix
if there are no fields for them. -/
def normalise (l : Layout) (body : Bytes) : Bytes :=
  let bytes := body.mapIdx (normaliseByte l.head)
  match l.shape with
  | .empty | .fixed => bytes.take l.prefixLength
  | .wholeBody | .prefixAndTail | .delimited => bytes

theorem bytes_length {t : FixedType} {v : FieldValue} (h : v.type = .fixed t) :
    v.bytes.length = t.width := by
  cases v <;> cases h <;> simp [FieldValue.bytes, FixedType.width]

theorem flatMap_bytes_length {fields : List (Named FixedType)}
    (h : values.map (·.type) = fields.map fun f => .fixed f.type) :
    (values.flatMap (·.bytes)).length = headWidth fields := by
  induction fields generalizing values with
  | nil => simp [List.map_eq_nil_iff.mp h, headWidth]
  | cons f fields ih =>
    obtain ⟨v, values, rfl, hv, hvs⟩ := List.map_eq_cons_iff.mp h
    rw [List.flatMap_cons, List.length_append, bytes_length hv, ih hvs]
    rfl

theorem type_fixedValue (t : FixedType) (b : Bytes) : (fixedValue t b).type = .fixed t := by
  cases t <;> rfl

theorem map_type_decodeHead (fields : List (Named FixedType)) (b : Bytes) :
    (decodeHead fields b).map (·.type) = fields.map fun f => .fixed f.type := by
  induction fields generalizing b with
  | nil => rfl
  | cons f fields ih => simp [decodeHead, type_fixedValue, ih]

/-- A word is read from its own bytes. -/
theorem ofNat_wordValue_eq_iff {α : Type} (ofNat : Nat → α) (toNat : α → Nat) {n : α} {b : Bytes}
    (hof : ofNat (toNat n) = n) (hlt : toNat n < wordCount b.length)
    (hto : ∀ w < wordCount b.length, toNat (ofNat w) = w) :
    ofNat (wordValue b) = n ↔ wordBytes b.length (toNat n) = b := by
  constructor
  · rintro rfl
    rw [hto _ (wordValue_lt b), wordBytes_wordValue]
  · intro h
    rw [← h, wordValue_wordBytes, Nat.mod_eq_of_lt hlt, hof]

theorem ofNat_toUInt64_toNat (n : Int64) : Int64.ofNat n.toUInt64.toNat = n := by
  have hbits : Int64.ofNat n.toUInt64.toNat = n.toUInt64.toInt64 := by
    apply Int64.toBitVec_inj.mp
    simp
  rw [hbits]
  simp

/-- A value of fixed width is read from its own bytes, and true from every byte that is not zero. -/
theorem fixedValue_eq_iff {t : FixedType} {b : Bytes} {v : FieldValue} (hb : b.length = t.width)
    (hv : v.type = .fixed t) :
    fixedValue t b = v ↔ v.bytes = b.map fun x => if t = .bool ∧ x ≠ 0 then 1 else x := by
  have h32 : wordCount 4 = 2 ^ 32 := by decide
  have h64 : wordCount 8 = 2 ^ 64 := by decide
  cases t with
  | bool =>
    obtain ⟨x, rfl⟩ := List.length_eq_one_iff.mp hb
    cases v <;> cases hv
    rename_i flag
    by_cases hx : x = 0
    · subst hx
      cases flag <;> decide
    · have hne : x.toNat ≠ 0 := fun h => hx (UInt8.toNat_inj.mp h)
      cases flag <;> simp [fixedValue, FieldValue.bytes, wordValue, hx, hne]
  | u32 =>
    cases v <;> cases hv
    rename_i n
    have hlength : b.length = 4 := hb
    have hword := ofNat_wordValue_eq_iff UInt32.ofNat UInt32.toNat (n.ofNat_toNat)
      (by rw [hlength, h32]; exact n.toNat_lt)
      (fun w hw => by rw [hlength, h32] at hw; exact UInt32.toNat_ofNat_of_lt hw)
    rw [hlength] at hword
    simpa [fixedValue, FieldValue.bytes] using hword
  | u64 =>
    cases v <;> cases hv
    rename_i n
    have hlength : b.length = 8 := hb
    have hword := ofNat_wordValue_eq_iff UInt64.ofNat UInt64.toNat (n.ofNat_toNat)
      (by rw [hlength, h64]; exact n.toNat_lt)
      (fun w hw => by rw [hlength, h64] at hw; exact UInt64.toNat_ofNat_of_lt hw)
    rw [hlength] at hword
    simpa [fixedValue, FieldValue.bytes] using hword
  | i64 =>
    cases v <;> cases hv
    rename_i n
    have hlength : b.length = 8 := hb
    have hword := ofNat_wordValue_eq_iff Int64.ofNat (fun n => n.toUInt64.toNat)
      (ofNat_toUInt64_toNat n) (by rw [hlength, h64]; exact n.toUInt64.toNat_lt)
      (fun w hw => by rw [hlength, h64] at hw; simpa using hw)
    rw [hlength] at hword
    simpa [fixedValue, FieldValue.bytes, signed64] using hword

/-! ### Positions -/

theorem not_isFlag {fields : List (Named FixedType)} {i : Nat} (h : headWidth fields ≤ i) :
    isFlag fields i = false := by
  induction fields generalizing i with
  | nil => rfl
  | cons f fields ih =>
    have hwidth : f.type.width + headWidth fields ≤ i := h
    rw [isFlag, if_neg (by omega)]
    exact ih (by omega)

theorem normaliseByte_of_lt {f : Named FixedType} {fields : List (Named FixedType)} {i : Nat}
    (h : i < f.type.width) (x : UInt8) :
    normaliseByte (f :: fields) i x = if f.type = .bool ∧ x ≠ 0 then 1 else x := by
  simp [normaliseByte, isFlag, h]

theorem normaliseByte_add (f : Named FixedType) (fields : List (Named FixedType)) (i : Nat)
    (x : UInt8) : normaliseByte (f :: fields) (i + f.type.width) x = normaliseByte fields i x := by
  have hnot : ¬ i + f.type.width < f.type.width := by omega
  have hsub : i + f.type.width - f.type.width = i := by omega
  rw [normaliseByte, isFlag, if_neg hnot, hsub]
  rfl

/-- The bytes of the first field, and those of the other fields. -/
theorem mapIdx_normaliseByte {f : Named FixedType} {fields : List (Named FixedType)} {b : Bytes}
    (h : f.type.width ≤ b.length) : b.mapIdx (normaliseByte (f :: fields)) =
      ((b.take f.type.width).map fun x => if f.type = .bool ∧ x ≠ 0 then 1 else x) ++
        (b.drop f.type.width).mapIdx (normaliseByte fields) := by
  have hlength : (b.take f.type.width).length = f.type.width := List.length_take_of_le h
  have hfirst : (b.take f.type.width).mapIdx (normaliseByte (f :: fields)) =
      (b.take f.type.width).map fun x => if f.type = .bool ∧ x ≠ 0 then 1 else x := by
    refine List.ext_getElem (by simp) fun i hi hi' => ?_
    rw [List.length_mapIdx, hlength] at hi
    rw [List.getElem_mapIdx, List.getElem_map, normaliseByte_of_lt hi]
  have hrest : (fun i => normaliseByte (f :: fields) (i + f.type.width)) = normaliseByte fields := by
    funext i x
    exact normaliseByte_add f fields i x
  calc b.mapIdx (normaliseByte (f :: fields))
      = (b.take f.type.width ++ b.drop f.type.width).mapIdx (normaliseByte (f :: fields)) := by
        rw [List.take_append_drop]
    _ = _ := by rw [List.mapIdx_append, hfirst, hlength, hrest]

/-- A prefix is normalised field by field. -/
theorem take_mapIdx_normaliseByte {f : Named FixedType} {fields : List (Named FixedType)} {b : Bytes}
    (h : f.type.width ≤ b.length) :
    (b.mapIdx (normaliseByte (f :: fields))).take (headWidth (f :: fields)) =
      ((b.take f.type.width).map fun x => if f.type = .bool ∧ x ≠ 0 then 1 else x) ++
        ((b.drop f.type.width).mapIdx (normaliseByte fields)).take (headWidth fields) := by
  have hlength : (b.take f.type.width).length = f.type.width := List.length_take_of_le h
  have hwidths : headWidth (f :: fields) = f.type.width + headWidth fields := rfl
  rw [mapIdx_normaliseByte h, hwidths, List.take_append, List.length_map, hlength,
    List.take_of_length_le (by rw [List.length_map, hlength]; exact Nat.le_add_right _ _),
    Nat.add_sub_cancel_left]

/-- The values of a prefix are read from their own bytes, normalised. -/
theorem decodeHead_eq_iff {fields : List (Named FixedType)} {b : Bytes}
    (hb : headWidth fields ≤ b.length)
    (htypes : values.map (·.type) = fields.map fun f => .fixed f.type) :
    decodeHead fields b = values ↔
      values.flatMap (·.bytes) = (b.mapIdx (normaliseByte fields)).take (headWidth fields) := by
  induction fields generalizing b values with
  | nil => simp [List.map_eq_nil_iff.mp htypes, decodeHead, headWidth]
  | cons f fields ih =>
    obtain ⟨v, values, rfl, hv, hvs⟩ := List.map_eq_cons_iff.mp htypes
    have hwidth : f.type.width + headWidth fields ≤ b.length := hb
    have hfirst : (b.take f.type.width).length = f.type.width := by
      rw [List.length_take]
      omega
    have hrest : headWidth fields ≤ (b.drop f.type.width).length := by
      rw [List.length_drop]
      omega
    rw [take_mapIdx_normaliseByte (by omega), decodeHead, List.cons.injEq, List.flatMap_cons,
      fixedValue_eq_iff hfirst hv, ih hrest hvs]
    -- the bytes of the first value are as many as those of its field, so both sides split there
    constructor
    · rintro ⟨hv', hvs'⟩
      rw [hv', hvs']
    · intro h
      exact List.append_inj h (by rw [bytes_length hv, List.length_map, hfirst])

theorem map_bytes {t : FixedType} {v : FieldValue} (hv : v.type = .fixed t) :
    (v.bytes.map fun x => if t = .bool ∧ x ≠ 0 then 1 else x) = v.bytes := by
  cases v <;> cases hv
  · rename_i flag
    cases flag <;> decide
  all_goals simp

/-- The bytes of values are normalised already. -/
theorem take_mapIdx_flatMap_bytes {fields : List (Named FixedType)} (rest : Bytes)
    (h : values.map (·.type) = fields.map fun f => .fixed f.type) :
    ((values.flatMap (·.bytes) ++ rest).mapIdx (normaliseByte fields)).take (headWidth fields) =
      values.flatMap (·.bytes) := by
  induction fields generalizing values with
  | nil => simp [List.map_eq_nil_iff.mp h, headWidth]
  | cons f fields ih =>
    obtain ⟨v, values, rfl, hv, hvs⟩ := List.map_eq_cons_iff.mp h
    have hwidth := bytes_length hv
    rw [List.flatMap_cons, List.append_assoc, take_mapIdx_normaliseByte (by simp; omega), ← hwidth,
      List.take_left, List.drop_left, map_bytes hv, ih hvs]

/-! ## The fields of varying length -/

theorem varyingValue_eq_ok_iff {f : Named VaryingType} {b : Bytes} {v : FieldValue} :
    varyingValue f b = .ok v ↔ v.type = .varying f.type ∧ v.bytes = b := by
  unfold varyingValue
  cases f.type with
  | blob =>
    cases v with
    | blob c => simp [FieldValue.type, FieldValue.bytes, eq_comm]
    | _ => simp [FieldValue.type]
  | text =>
    cases hdecode : Text.decode? b with
    | none =>
      refine iff_of_false (fun h => by cases h) ?_
      rintro ⟨htype, rfl⟩
      cases v <;> cases htype
      rw [FieldValue.bytes, Text.decode_encode] at hdecode
      cases hdecode
    | some t =>
      have hb := Text.decode_eq_some_iff.mp hdecode
      constructor
      · intro h
        cases h
        exact ⟨rfl, hb.symm⟩
      · rintro ⟨htype, hbytes⟩
        cases v <;> cases htype
        rename_i u
        rw [Text.encode_injective (hbytes.trans hb)]

/-- Escaped fields are read from their written forms, one after another. -/
theorem decodeDelimited_eq_ok_iff {fields : List (Named VaryingType)} {b rest : Bytes} :
    decodeDelimited fields b = .ok (values, rest) ↔
      values.map (·.type) = fields.map (fun f => .varying f.type) ∧
        b = (values.flatMap fun v => Escape.write v.bytes) ++ rest := by
  induction fields generalizing b values rest with
  | nil =>
    rw [decodeDelimited]
    constructor
    · intro h
      cases h
      exact ⟨rfl, rfl⟩
    · rintro ⟨htypes, rfl⟩
      rw [List.map_eq_nil_iff.mp htypes]
      rfl
  | cons f fields ih =>
    simp only [decodeDelimited, Outcome.bind_eq_ok_iff, Outcome.mapError_eq_ok_iff, Prod.exists,
      Escape.read_eq_ok_iff, varyingValue_eq_ok_iff, ih]
    constructor
    · rintro ⟨value, input, rfl, v, ⟨hv, rfl⟩, values', rest', ⟨hvs, rfl⟩, heq⟩
      cases heq
      refine ⟨by rw [List.map_cons, List.map_cons, hv, hvs], ?_⟩
      rw [List.flatMap_cons, List.append_assoc]
    · rintro ⟨htypes, rfl⟩
      obtain ⟨v, values', rfl, hv, hvs⟩ := List.map_eq_cons_iff.mp htypes
      refine ⟨v.bytes, _, ?_, v, ⟨hv, rfl⟩, values', rest, ⟨hvs, rfl⟩, rfl⟩
      rw [List.flatMap_cons, List.append_assoc]

/-- The fields of varying length, if there are any, are read from their framed form. -/
theorem decodeTail_eq_ok_iff {b : Bytes} : decodeTail l.tail b = .ok values ↔
    values.map (·.type) = l.tail.map (fun f => .varying f.type) ∧
      (l.tail ≠ [] → frame l.shape values = b) := by
  obtain ⟨record, head, tail⟩ := l
  cases tail with
  | nil =>
    simp only [decodeTail, List.map_nil, List.map_eq_nil_iff, ne_eq, not_true_eq_false, false_imp_iff,
      and_true]
    constructor
    · intro h
      cases h
      rfl
    · rintro rfl
      rfl
  | cons f tail =>
    cases tail with
    | nil =>
      have hframe : ∀ v, frame (Layout.shape ⟨record, head, [f]⟩) [v] = v.bytes := by
        intro v
        cases head <;> simp [Layout.shape, frame]
      simp only [decodeTail, Outcome.bind_eq_ok_iff, varyingValue_eq_ok_iff]
      constructor
      · rintro ⟨v, ⟨hv, rfl⟩, heq⟩
        cases heq
        exact ⟨by simp [hv], fun _ => hframe v⟩
      · rintro ⟨htypes, hbytes⟩
        obtain ⟨v, rfl, hv⟩ := List.map_eq_singleton_iff.mp htypes
        rw [hframe] at hbytes
        exact ⟨v, ⟨hv, hbytes (by simp)⟩, rfl⟩
    | cons g tail =>
      have hshape : Layout.shape ⟨record, head, f :: g :: tail⟩ = .delimited := by
        cases head <;> rfl
      simp only [decodeTail, Outcome.bind_eq_ok_iff, Prod.exists, decodeDelimited_eq_ok_iff, hshape,
        frame]
      constructor
      · rintro ⟨values', rest, ⟨htypes, rfl⟩, hend⟩
        split at hend
        · cases hend
        · rename_i hrest
          cases hend
          have hnil : rest = [] := by simpa using hrest
          rw [hnil, List.append_nil]
          exact ⟨htypes, fun _ => rfl⟩
      · rintro ⟨htypes, hbytes⟩
        refine ⟨values, [], ⟨htypes, ?_⟩, rfl⟩
        rw [List.append_nil, hbytes (by simp)]

/-- Without fields of varying length nothing follows the prefix. -/
theorem frame_eq_nil (hnone : l.tail = [])
    (h : values.map (·.type) = l.tail.map fun f => .varying f.type) :
    frame l.shape values = [] := by
  rw [hnone] at h
  rw [List.map_eq_nil_iff.mp h]
  cases l.shape <;> rfl

/-! ## Whole payloads -/

theorem decode_eq_ok_iff : decode l body = .ok values ↔ l.prefixLength ≤ body.length ∧
    ∃ last, decodeTail l.tail (body.drop l.prefixLength) = .ok last ∧
      values = decodeHead l.head body ++ last := by
  unfold decode
  by_cases hshort : body.length < l.prefixLength
  · rw [if_pos hshort]
    exact iff_of_false (fun h => by cases h) fun h => absurd h.1 (Nat.not_le.mpr hshort)
  · rw [if_neg hshort, Outcome.bind_eq_ok_iff]
    constructor
    · rintro ⟨last, hlast, heq⟩
      cases heq
      exact ⟨Nat.not_lt.mp hshort, last, hlast, rfl⟩
    · rintro ⟨-, last, hlast, rfl⟩
      exact ⟨last, hlast, rfl⟩

/-- After the prefix nothing is normalised. -/
theorem mapIdx_normaliseByte_eq {fields : List (Named FixedType)} {b : Bytes}
    (h : headWidth fields ≤ b.length) : b.mapIdx (normaliseByte fields) =
      (b.mapIdx (normaliseByte fields)).take (headWidth fields) ++ b.drop (headWidth fields) := by
  have hlength : (b.take (headWidth fields)).length = headWidth fields := List.length_take_of_le h
  have hafter : (fun i => normaliseByte fields (i + headWidth fields)) = fun _ x => x := by
    funext i x
    simp [normaliseByte, not_isFlag (Nat.le_add_left (headWidth fields) i)]
  have hsplit : b.mapIdx (normaliseByte fields) =
      (b.take (headWidth fields)).mapIdx (normaliseByte fields) ++ b.drop (headWidth fields) := by
    calc b.mapIdx (normaliseByte fields)
        = (b.take (headWidth fields) ++ b.drop (headWidth fields)).mapIdx (normaliseByte fields) := by
          rw [List.take_append_drop]
      _ = _ := by
          rw [List.mapIdx_append, hlength, hafter]
          congr 1
          exact List.ext_getElem (by simp) fun i _ _ => by simp
  rw [hsplit, List.take_left' (by rw [List.length_mapIdx, hlength])]

/-- A payload is normalised in its prefix, and the rest stays or goes. -/
theorem normalise_eq (h : l.prefixLength ≤ body.length) : normalise l body =
    (body.mapIdx (normaliseByte l.head)).take l.prefixLength ++
      (if l.tail = [] then [] else body.drop l.prefixLength) := by
  have hshape : normalise l body = if l.tail = [] then
      (body.mapIdx (normaliseByte l.head)).take l.prefixLength else
      body.mapIdx (normaliseByte l.head) := by
    obtain ⟨record, head, tail⟩ := l
    cases head <;> rcases tail with _ | ⟨f, _ | ⟨g, tail⟩⟩ <;> rfl
  rw [hshape]
  split
  · rw [List.append_nil]
  · exact mapIdx_normaliseByte_eq h

/-- A payload is decoded where it is the payload of its values, up to normalisation. -/
theorem decode_iff_encode_normalise : decode l body = .ok values ↔
    l.prefixLength ≤ body.length ∧ encode l values = .ok (normalise l body) := by
  rw [decode_eq_ok_iff, encode_eq_ok_iff]
  refine and_congr_right fun hlong => ?_
  rw [normalise_eq hlong]
  have hlength : ((body.mapIdx (normaliseByte l.head)).take l.prefixLength).length =
      headWidth l.head := by
    rw [List.length_take_of_le (by simpa using hlong)]
    rfl
  constructor
  · rintro ⟨last, hlast, rfl⟩
    obtain ⟨htypes, hbytes⟩ := decodeTail_eq_ok_iff.mp hlast
    have hfirst := map_type_decodeHead l.head body
    refine ⟨_, last, rfl, hfirst, htypes, ?_⟩
    rw [(decodeHead_eq_iff hlong hfirst).mp rfl]
    congr 1
    split
    · rename_i hnone
      exact (frame_eq_nil hnone htypes).symm
    · rename_i hsome
      exact (hbytes hsome).symm
  · rintro ⟨first, last, rfl, hfirst, hlast, hbody⟩
    obtain ⟨hhead, htail⟩ := List.append_inj hbody (hlength.trans (flatMap_bytes_length hfirst).symm)
    refine ⟨last, decodeTail_eq_ok_iff.mpr ⟨hlast, fun hsome => ?_⟩, ?_⟩
    · rw [← htail, if_neg hsome]
    · rw [(decodeHead_eq_iff hlong hfirst).mpr hhead.symm]

theorem normaliseByte_eq_iff {fields : List (Named FixedType)} {i : Nat} {x y : UInt8} :
    normaliseByte fields i x = normaliseByte fields i y ↔
      x = y ∨ isFlag fields i = true ∧ x ≠ 0 ∧ y ≠ 0 := by
  unfold normaliseByte
  by_cases hflag : isFlag fields i = true
  · by_cases hx : x = 0
    · by_cases hy : y = 0
      · simp [hx, hy]
      · simp [hflag, hx, hy, Ne.symm hy]
    · by_cases hy : y = 0
      · simp [hflag, hx, hy]
      · simp [hflag, hx, hy]
  · simp [hflag]

/-- The same prefix comes out where at every position the same byte went in, or two bytes for true. -/
theorem take_mapIdx_eq_iff {fields : List (Named FixedType)} {a b : Bytes}
    (ha : headWidth fields ≤ a.length) (hb : headWidth fields ≤ b.length) :
    (a.mapIdx (normaliseByte fields)).take (headWidth fields) =
        (b.mapIdx (normaliseByte fields)).take (headWidth fields) ↔
      ∀ i < headWidth fields, a[i]? = b[i]? ∨
        isFlag fields i = true ∧ a[i]? ≠ some 0 ∧ b[i]? ≠ some 0 := by
  have hat : ∀ xs : Bytes, headWidth fields ≤ xs.length → ∀ i < headWidth fields, ∃ x,
      xs[i]? = some x ∧ ((xs.mapIdx (normaliseByte fields)).take (headWidth fields))[i]? =
        some (normaliseByte fields i x) := by
    intro xs hxs i hi
    have hx := List.getElem?_eq_getElem (Nat.lt_of_lt_of_le hi hxs)
    refine ⟨_, hx, ?_⟩
    rw [List.getElem?_take_of_lt hi, List.getElem?_mapIdx, hx]
    rfl
  constructor
  · intro h i hi
    obtain ⟨x, hx, hxs⟩ := hat a ha i hi
    obtain ⟨y, hy, hys⟩ := hat b hb i hi
    rw [h, hys] at hxs
    rw [hx, hy]
    simpa using normaliseByte_eq_iff.mp (Option.some.inj hxs).symm
  · intro h
    refine List.ext_getElem? fun i => ?_
    by_cases hi : i < headWidth fields
    · obtain ⟨x, hx, hxs⟩ := hat a ha i hi
      obtain ⟨y, hy, hys⟩ := hat b hb i hi
      have hsame := h i hi
      rw [hx, hy] at hsame
      rw [hxs, hys, normaliseByte_eq_iff.mpr (by simpa using hsame)]
    · rw [List.getElem?_take, if_neg hi, List.getElem?_take, if_neg hi]

/-- Two payloads agree where they are the same but for truth values that are not false, and for what
follows a prefix after which there are no fields. -/
def Agree (l : Layout) (a b : Bytes) : Prop :=
  (∀ i < l.prefixLength, a[i]? = b[i]? ∨
    isFlag l.head i = true ∧ a[i]? ≠ some 0 ∧ b[i]? ≠ some 0) ∧
  (l.tail ≠ [] → a.drop l.prefixLength = b.drop l.prefixLength)

theorem normalise_eq_iff {a b : Bytes} (ha : l.prefixLength ≤ a.length)
    (hb : l.prefixLength ≤ b.length) : normalise l a = normalise l b ↔ Agree l a b := by
  have hlength : ∀ xs : Bytes, l.prefixLength ≤ xs.length →
      ((xs.mapIdx (normaliseByte l.head)).take l.prefixLength).length = l.prefixLength :=
    fun xs hxs => List.length_take_of_le (by simpa using hxs)
  rw [normalise_eq ha, normalise_eq hb]
  constructor
  · intro h
    obtain ⟨hhead, htail⟩ := List.append_inj h ((hlength a ha).trans (hlength b hb).symm)
    refine ⟨(take_mapIdx_eq_iff ha hb).mp hhead, fun hsome => ?_⟩
    rw [if_neg hsome, if_neg hsome] at htail
    exact htail
  · rintro ⟨hhead, htail⟩
    have hbefore : (a.mapIdx (normaliseByte l.head)).take l.prefixLength =
        (b.mapIdx (normaliseByte l.head)).take l.prefixLength := (take_mapIdx_eq_iff ha hb).mpr hhead
    rw [hbefore]
    split
    · rfl
    · rename_i hsome
      rw [htail hsome]

/-- What is encoded is long enough for its prefix, and normalised. -/
theorem encode_normalised (h : encode l values = .ok body) :
    l.prefixLength ≤ body.length ∧ normalise l body = body := by
  obtain ⟨first, last, rfl, hfirst, hlast, rfl⟩ := encode_eq_ok_iff.mp h
  have hlength : (first.flatMap (·.bytes)).length = l.prefixLength := flatMap_bytes_length hfirst
  have hlong : l.prefixLength ≤ (first.flatMap (·.bytes) ++ frame l.shape last).length := by
    rw [List.length_append, hlength]
    exact Nat.le_add_right _ _
  refine ⟨hlong, ?_⟩
  have hhead := take_mapIdx_flatMap_bytes (frame l.shape last) hfirst
  rw [normalise_eq hlong]
  have hwidths : l.prefixLength = headWidth l.head := rfl
  rw [hwidths, hhead, ← hwidths, ← hlength, List.drop_left]
  congr 1
  split
  · rename_i hnone
    exact (frame_eq_nil hnone hlast).symm
  · rfl

theorem exists_encode (h : values.map (·.type) = l.fields.map (·.type)) :
    ∃ body, encode l values = .ok body := by
  rw [encode, checkTypes_eq_ok_iff.mpr h]
  exact ⟨_, rfl⟩

/-- Values are decoded from their payload. -/
theorem decode_encode (h : encode l values = .ok body) : decode l body = .ok values := by
  obtain ⟨hlong, hsame⟩ := encode_normalised h
  refine decode_iff_encode_normalise.mpr ⟨hlong, ?_⟩
  rw [hsame]
  exact h

/-- A payload is decoded exactly where it is long enough for the prefix and is, up to normalisation,
the payload of its values. So decoding undoes encoding, encoding undoes decoding up to normalisation,
and two payloads have the same values where they agree. -/
theorem decode_eq_ok_iff_encode (l : Layout) :
    (∀ body values, decode l body = .ok values ↔
      l.prefixLength ≤ body.length ∧ encode l values = .ok (normalise l body)) ∧
    (∀ values body, encode l values = .ok body → decode l body = .ok values) ∧
    (∀ a b values, decode l a = .ok values →
      (decode l b = .ok values ↔ l.prefixLength ≤ b.length ∧ Agree l a b)) := by
  refine ⟨fun body values => decode_iff_encode_normalise, fun values body => decode_encode, ?_⟩
  intro a b values h
  obtain ⟨hlong, hencode⟩ := decode_iff_encode_normalise.mp h
  rw [decode_iff_encode_normalise]
  refine and_congr_right fun hlong' => ?_
  rw [hencode, ← normalise_eq_iff hlong hlong', Except.ok.injEq]

/-- A record with fields of all kinds. -/
def sampleLayout : Layout where
  record := "Sample"
  head := [⟨"forced", .bool⟩, ⟨"size", .u32⟩]
  tail := [⟨"name", .text⟩, ⟨"data", .blob⟩]

theorem decode_eq_ok_iff_encode_sample :
    decode sampleLayout [7, 4, 0, 0, 0, 97, 92, 110, 10, 10] =
        .ok [.bool true, .u32 4, .text "a\n", .blob []] ∧
      decode sampleLayout [1, 4, 0, 0, 0, 97, 92, 110, 10, 10] =
        .ok [.bool true, .u32 4, .text "a\n", .blob []] := by
  obtain ⟨hdecode, hback, hagree⟩ := decode_eq_ok_iff_encode sampleLayout
  have hfirst := (hdecode [7, 4, 0, 0, 0, 97, 92, 110, 10, 10]
    [.bool true, .u32 4, .text "a\n", .blob []]).mpr ⟨by decide, rfl⟩
  refine ⟨hfirst, (hagree _ _ _ hfirst).mpr ⟨by decide, by decide, fun _ => rfl⟩⟩

end Raw

end FsGateway.Wire
