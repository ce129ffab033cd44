import FsGateway.Proofs.Wire.Escape
import FsGateway.Proofs.Wire.Layout
import FsGateway.Proofs.Wire.Positions

/-!
# Why a payload cannot be decoded

A payload that is too short for its prefix has that fault. Of one that is long enough the first field
of varying length that cannot be decoded has the fault, whatever follows it, and escaped fields that
can all be decoded must end the payload. There are no other faults.

* `varyingValue_eq_error_iff`, `decodeDelimited_eq_error_iff`: the faults of fields.
* `decode_eq_error_iff`: the faults of payloads.
* `codec_outcomes`: what decoding and encoding come to for every layout.
-/

namespace FsGateway.Wire.Raw

open Checked (Returns)

variable {l : Layout} {f : Named VaryingType} {tail : List (Named VaryingType)} {body b : Bytes}
  {values : List FieldValue} {fault : CodecFault}

/-! ## Fields -/

/-- Bytes are not the bytes of any text. -/
def NoText (b : Bytes) : Prop := ∀ s, Text.encode s ≠ b

/-- Why an escaped field cannot be decoded from the input that it starts. -/
inductive FieldFails (f : Named VaryingType) (input : Bytes) : CodecFault → Prop
  /-- The input does not start with an escaped field. Offsets are from the start of the input. -/
  | escape (fault : Escape.Fault) (h : Escape.FailsAt 0 input fault) :
      FieldFails f input (.ofEscape f.name fault)
  /-- The input starts with an escaped field, and its bytes should be text. -/
  | utf8 (value rest : Bytes) (h : input = Escape.write value ++ rest) (htype : f.type = .text)
      (hvalue : NoText value) : FieldFails f input (.invalidUtf8 f.name)

/-- The first escaped field that cannot be decoded, after fields that can. What comes after it does not
matter. -/
def FirstFails (tail : List (Named VaryingType)) (b : Bytes) (fault : CodecFault) : Prop :=
  ∃ before f after, ∃ (values : List FieldValue) (rest : Bytes), tail = before ++ f :: after ∧
    values.map (·.type) = before.map (fun f => .varying f.type) ∧
    b = (values.flatMap fun v => Escape.write v.bytes) ++ rest ∧ FieldFails f rest fault

theorem varyingValue_eq_error_iff : varyingValue f b = .error fault ↔
    f.type = .text ∧ NoText b ∧ fault = .invalidUtf8 f.name := by
  unfold varyingValue
  cases f.type with
  | blob => exact iff_of_false (fun h => by cases h) fun ⟨h, _⟩ => by cases h
  | text =>
    cases hdecode : Text.decode? b with
    | some s =>
      refine iff_of_false (fun h => by cases h) ?_
      intro ⟨_, hb, _⟩
      exact hb s (Text.decode_eq_some_iff.mp hdecode).symm
    | none =>
      have hb : NoText b := by
        intro s hs
        rw [← hs, Text.decode_encode] at hdecode
        cases hdecode
      constructor
      · intro h
        cases h
        exact ⟨rfl, hb, rfl⟩
      · intro ⟨_, _, hfault⟩
        rw [hfault]

/-- A field fails as it is read, or as its bytes are made a value. -/
theorem fieldFails_iff : FieldFails f b fault ↔
    (∃ e, Escape.FailsAt 0 b e ∧ CodecFault.ofEscape f.name e = fault) ∨
      ∃ value rest, b = Escape.write value ++ rest ∧ varyingValue f value = .error fault := by
  simp only [varyingValue_eq_error_iff]
  constructor
  · intro h
    cases h with
    | escape e h => exact .inl ⟨e, h, rfl⟩
    | utf8 value rest h htype hvalue => exact .inr ⟨value, rest, h, htype, hvalue, rfl⟩
  · intro h
    obtain ⟨e, h, hfault⟩ | ⟨value, rest, h, htype, hvalue, hfault⟩ := h
    · rw [← hfault]
      exact .escape e h
    · rw [hfault]
      exact .utf8 value rest h htype hvalue

theorem not_firstFails_nil : ¬ FirstFails [] b fault := by
  intro ⟨before, f, after, values, rest, h, _⟩
  simp at h

theorem firstFails_cons : FirstFails (f :: tail) b fault ↔ FieldFails f b fault ∨
    ∃ (v : FieldValue) (rest : Bytes), v.type = .varying f.type ∧ b = Escape.write v.bytes ++ rest ∧
      FirstFails tail rest fault := by
  constructor
  · intro ⟨before, g, after, values, rest, htail, hvalues, hb, hfails⟩
    cases before with
    | nil =>
      cases htail
      rw [List.map_eq_nil_iff.mp hvalues] at hb
      rw [hb]
      exact .inl hfails
    | cons g' before =>
      cases htail
      obtain ⟨v, values, rfl, hv, hvalues⟩ := List.map_eq_cons_iff.mp hvalues
      rw [List.flatMap_cons, List.append_assoc] at hb
      exact .inr ⟨v, _, hv, hb, before, g, after, values, rest, rfl, hvalues, rfl, hfails⟩
  · intro h
    obtain h | ⟨v, rest, hv, hb, before, g, after, values, rest', htail, hvalues, hrest, hfails⟩ := h
    · exact ⟨[], f, tail, [], b, rfl, rfl, rfl, h⟩
    · refine ⟨f :: before, g, after, v :: values, rest', by rw [htail]; rfl, ?_, ?_, hfails⟩
      · rw [List.map_cons, List.map_cons, hv, hvalues]
      · rw [List.flatMap_cons, List.append_assoc, hb, hrest]

/-- Escaped fields have the fault of the first of them that cannot be decoded. -/
theorem decodeDelimited_eq_error_iff :
    decodeDelimited tail b = .error fault ↔ FirstFails tail b fault := by
  induction tail generalizing b with
  | nil => exact iff_of_false (fun h => by cases h) not_firstFails_nil
  | cons f tail ih =>
    rw [firstFails_cons, fieldFails_iff]
    simp only [decodeDelimited, Outcome.bind_eq_error_iff, Outcome.mapError_eq_error_iff,
      Outcome.mapError_eq_ok_iff, Prod.exists, Escape.read_eq_error_iff, Escape.read_eq_ok_iff,
      varyingValue_eq_ok_iff, ih]
    constructor
    · intro h
      obtain h | ⟨value, rest, hb, h | ⟨v, ⟨hv, hvalue⟩, h | ⟨vs, rest', _, h⟩⟩⟩ := h
      · exact .inl (.inl h)
      · exact .inl (.inr ⟨value, rest, hb, h⟩)
      · rw [← hvalue] at hb
        exact .inr ⟨v, rest, hv, hb, h⟩
      · cases h
    · intro h
      obtain (h | ⟨value, rest, hb, h⟩) | ⟨v, rest, hv, hb, h⟩ := h
      · exact .inl h
      · exact .inr ⟨value, rest, hb, .inl h⟩
      · exact .inr ⟨v.bytes, rest, hb, .inr ⟨v, ⟨hv, rfl⟩, .inl h⟩⟩

/-! ## Payloads -/

/-- Why a payload cannot be decoded. -/
inductive Faulty (l : Layout) (body : Bytes) : CodecFault → Prop
  /-- It is shorter than its prefix. -/
  | short (h : body.length < l.prefixLength) : Faulty l body (.shortRead l.prefixLength body.length)
  /-- The rest of it should be text. -/
  | rest (f : Named VaryingType) (hlong : l.prefixLength ≤ body.length) (htail : l.tail = [f])
      (htype : f.type = .text) (h : NoText (body.drop l.prefixLength)) :
      Faulty l body (.invalidUtf8 f.name)
  /-- An escaped field cannot be decoded, and those before it can. -/
  | field (fault : CodecFault) (hlong : l.prefixLength ≤ body.length) (hshape : l.shape = .delimited)
      (h : FirstFails l.tail (body.drop l.prefixLength) fault) : Faulty l body fault
  /-- All escaped fields can be decoded, and something follows them. -/
  | surplus (values : List FieldValue) (rest : Bytes) (hlong : l.prefixLength ≤ body.length)
      (hshape : l.shape = .delimited)
      (htypes : values.map (·.type) = l.tail.map (fun f => .varying f.type))
      (h : body.drop l.prefixLength = (values.flatMap fun v => Escape.write v.bytes) ++ rest)
      (hrest : rest ≠ []) : Faulty l body (.trailingBytes rest.length)

theorem decodeTail_eq_error_iff (hlong : l.prefixLength ≤ body.length) :
    decodeTail l.tail (body.drop l.prefixLength) = .error fault ↔ Faulty l body fault := by
  obtain ⟨record, head, tail⟩ := l
  match tail with
  | [] =>
    refine iff_of_false (fun h => by cases h) fun h => ?_
    cases h with
    | short h => omega
    | rest f _ htail => cases htail
    | field fault _ hshape => cases head <;> cases hshape
    | surplus values rest _ hshape => cases head <;> cases hshape
  | [f] =>
    rw [decodeTail, Outcome.bind_eq_error_iff, varyingValue_eq_error_iff]
    constructor
    · intro h
      obtain ⟨htype, hrest, hfault⟩ | ⟨v, _, h⟩ := h
      · rw [hfault]
        exact .rest f hlong rfl htype hrest
      · cases h
    · intro h
      cases h with
      | short h => omega
      | rest f _ htail htype hrest =>
        cases htail
        exact .inl ⟨htype, hrest, rfl⟩
      | field fault _ hshape => cases head <;> cases hshape
      | surplus values rest _ hshape => cases head <;> cases hshape
  | f :: g :: tail =>
    have hshape : Layout.shape ⟨record, head, f :: g :: tail⟩ = .delimited := by cases head <;> rfl
    simp only [decodeTail, Outcome.bind_eq_error_iff, decodeDelimited_eq_error_iff, Prod.exists,
      decodeDelimited_eq_ok_iff]
    constructor
    · intro h
      obtain h | ⟨values, rest, ⟨htypes, hbytes⟩, h⟩ := h
      · exact .field fault hlong hshape h
      · by_cases hrest : rest.length ≠ 0
        · rw [if_pos hrest] at h
          cases h
          exact .surplus values rest hlong hshape htypes hbytes fun hnil => hrest (by simp [hnil])
        · rw [if_neg hrest] at h
          cases h
    · intro h
      cases h with
      | short h => omega
      | rest f _ htail => cases htail
      | field fault _ _ h => exact .inl h
      | surplus values rest _ _ htypes hbytes hrest =>
        refine .inr ⟨values, rest, ⟨htypes, hbytes⟩, if_pos ?_⟩
        simpa using hrest

/-- The faults of payloads. -/
theorem decode_eq_error_iff : decode l body = .error fault ↔ Faulty l body fault := by
  by_cases hshort : body.length < l.prefixLength
  · rw [decode, if_pos hshort]
    constructor
    · intro h
      cases h
      exact .short hshort
    · intro h
      cases h with
      | short => rfl
      | rest f hlong => omega
      | field fault hlong => omega
      | surplus values rest hlong => omega
  · rw [decode, if_neg hshort, Outcome.bind_eq_error_iff,
      decodeTail_eq_error_iff (Nat.not_lt.mp hshort)]
    constructor
    · intro h
      obtain h | ⟨last, _, h⟩ := h
      · exact h
      · cases h
    · intro h
      exact .inl h

/-- Only a payload that is too short for its prefix has the fault of one. -/
theorem faulty_shortRead_iff {expected actual : Nat} : Faulty l body (.shortRead expected actual) ↔
    body.length < l.prefixLength ∧ expected = l.prefixLength ∧ actual = body.length := by
  constructor
  · intro h
    cases h with
    | short h => exact ⟨h, rfl, rfl⟩
    | field _ _ _ h =>
      obtain ⟨before, f, after, values, rest, _, _, _, h⟩ := h
      obtain ⟨e, _, h⟩ | ⟨value, rest, _, h⟩ := fieldFails_iff.mp h
      · cases e <;> cases h
      · obtain ⟨_, _, h⟩ := varyingValue_eq_error_iff.mp h
        cases h
  · intro ⟨h, hexpected, hactual⟩
    rw [hexpected, hactual]
    exact .short h

/-! ## Every layout -/

theorem map_type_of_encode (h : encode l values = .ok body) :
    values.map (·.type) = l.fields.map (·.type) := by
  obtain ⟨first, last, hvalues, hfirst, hlast, _⟩ := encode_eq_ok_iff.mp h
  exact map_type_fields_iff.mpr ⟨first, last, hvalues, hfirst, hlast⟩

theorem encode_fails_iff : (∃ fault, encode l values = .error fault) ↔
    values.map (·.type) ≠ l.fields.map (·.type) := by
  constructor
  · intro ⟨fault, h⟩ htypes
    obtain ⟨body, hbody⟩ := exists_encode htypes
    rw [h] at hbody
    cases hbody
  · intro hne
    cases h : encode l values with
    | error fault => exact ⟨fault, rfl⟩
    | ok body => exact absurd (map_type_of_encode h) hne

/-- What decoding and encoding come to for every layout. Decoding takes no step that has no result; its
fault is that of a payload too short for its prefix, or else that of the first field that cannot be
decoded, or else that of what follows the escaped fields; and where there is none of these, there is a
value for each field, of its type. Encoding takes no such step either, and has a fault for just those
values whose number or types are not those of the fields. -/
theorem codec_outcomes {record : String} {fields : List Field}
    (h : Layout.ofFields record fields = .ok l) :
    (∀ body, Returns (decodeAt l body) (decode l body) ∧
      (∀ fault, decode l body = .error fault ↔ Faulty l body fault) ∧
      (∀ expected actual, decode l body = .error (.shortRead expected actual) ↔
        body.length < l.prefixLength ∧ expected = l.prefixLength ∧ actual = body.length) ∧
      ((∃ values, decode l body = .ok values) ↔ ∀ fault, ¬ Faulty l body fault) ∧
      ∀ values, decode l body = .ok values → values.map (·.type) = fields.map (·.type)) ∧
    ∀ values, Returns (encodeAt l values) (encode l values) ∧
      ((∃ fault, encode l values = .error fault) ↔ values.map (·.type) ≠ fields.map (·.type)) := by
  obtain ⟨-, rfl⟩ := Layout.ofFields_eq_ok_iff.mp h
  refine ⟨fun body => ⟨decodeAt_returns l body, fun fault => decode_eq_error_iff, ?_, ?_, ?_⟩,
    fun values => ⟨encodeAt_returns l values, encode_fails_iff⟩⟩
  · intro expected actual
    rw [decode_eq_error_iff, faulty_shortRead_iff]
  · constructor
    · intro ⟨values, hvalues⟩ fault hfault
      rw [decode_eq_error_iff.mpr hfault] at hvalues
      cases hvalues
    · intro hnone
      cases hdecode : decode l body with
      | ok values => exact ⟨values, rfl⟩
      | error fault => exact absurd (decode_eq_error_iff.mp hdecode) (hnone fault)
  · intro values hvalues
    exact map_type_of_encode (decode_iff_encode_normalise.mp hvalues).2

theorem codec_outcomes_sample :
    decode sampleLayout [1, 4, 0, 0] = .error (.shortRead 5 4) ∧
      decode sampleLayout [1, 4, 0, 0, 0, 97, 10, 98, 92] = .error (.invalidEscape "data" 1) ∧
      ∃ fault, encode sampleLayout [.bool true, .u32 4] = .error fault := by
  obtain ⟨hdecode, hencode⟩ := codec_outcomes (Layout.ofFields_fields sampleLayout)
  obtain ⟨_, _, hshort, _⟩ := hdecode [1, 4, 0, 0]
  obtain ⟨_, hfault, _⟩ := hdecode [1, 4, 0, 0, 0, 97, 10, 98, 92]
  refine ⟨(hshort 5 4).mpr (by decide), (hfault _).mpr ?_, (hencode _).2.mpr (by decide)⟩
  -- the name is read, and the data ends in a backslash
  have hdata : FieldFails ⟨"data", .blob⟩ [98, 92] (.invalidEscape "data" 1) :=
    .escape (.invalid 1) (.invalid [98] [] (by decide) (by simp))
  exact .field _ (by decide) rfl
    ⟨[⟨"name", .text⟩], ⟨"data", .blob⟩, [], [.text "a"], [98, 92], rfl, rfl, by decide, hdata⟩

end FsGateway.Wire.Raw
