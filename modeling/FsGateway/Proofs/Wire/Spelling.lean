import FsGateway.Proofs.Wire.Escape
import FsGateway.Proofs.Wire.Positions

/-!
# What an escaped field spells

A field is a sequence of plain bytes and of pairs that start with a backslash, and a newline behind it.
No newline stands inside the sequence, so a field ends where its first newline is, whatever comes after
it, and fields that are written one after another are read one after another.

* `Spells`: the sequences and the values that they spell.
* `readField_eq_ok_iff`: the fields that are read, and how many bytes each takes.
* `read_eq_invalid_iff`, `read_eq_unterminated_iff`: where the sequence breaks off.
* `readFields_eq_ok_iff`: a list of fields is read from what writing it produces and from nothing else.
* `fields_delimit_themselves`: all of this for every input.
-/

namespace FsGateway.Wire.Escape

variable {input text value rest out : Bytes} {p used : Nat} {name : String}

/-! ## Sequences -/

/-- A sequence spells a value: a pair of backslashes a backslash, a backslash and the letter n a
newline, and every other byte itself. -/
inductive Spells : Bytes → Bytes → Prop
  | nil : Spells [] []
  | plain {b : UInt8} {text value : Bytes} (hb : b ≠ backslash) (hn : b ≠ newline) :
      Spells text value → Spells (b :: text) (b :: value)
  | escapedBackslash {text value : Bytes} :
      Spells text value → Spells (backslash :: backslash :: text) (backslash :: value)
  | escapedNewline {text value : Bytes} :
      Spells text value → Spells (backslash :: letterN :: text) (newline :: value)

theorem escape_plain {b : UInt8} (hb : b ≠ backslash) (hn : b ≠ newline) : escape b = [b] := by
  rw [escape, if_neg hb, if_neg hn]

theorem spells_spelled (value : Bytes) : Spells (spelled value) value := by
  induction value with
  | nil => exact .nil
  | cons b value ih =>
    rw [spelled_cons]
    by_cases hb : b = backslash
    · subst hb
      exact .escapedBackslash ih
    by_cases hn : b = newline
    · subst hn
      exact .escapedNewline ih
    rw [escape_plain hb hn]
    exact .plain hb hn ih

theorem Spells.eq_spelled (h : Spells text value) : text = spelled value := by
  induction h with
  | nil => rfl
  | plain hb hn _ ih =>
    rw [spelled_cons, escape_plain hb hn, ← ih]
    rfl
  | escapedBackslash _ ih =>
    rw [spelled_cons, ← ih]
    rfl
  | escapedNewline _ ih =>
    rw [spelled_cons, ← ih]
    rfl

/-- A value is spelled by one sequence, its bytes escaped. -/
theorem spells_iff : Spells text value ↔ text = spelled value := by
  constructor
  · exact Spells.eq_spelled
  · rintro rfl
    exact spells_spelled value

/-! ## Writing -/

/-- A field is written as a sequence that spells it, and a newline. -/
theorem Spells.write_eq (h : Spells text value) : write value = text ++ [Escape.newline] := by
  rw [h.eq_spelled]
  rfl

/-- A buffer with one more byte behind what it holds already, escaped. -/
def appendByte (out : Bytes) (b : UInt8) : Bytes :=
  if b = backslash then out ++ [backslash, backslash]
  else if b = newline then out ++ [backslash, letterN]
  else out ++ [b]

/-- A buffer with a field behind what it holds already. -/
def append (out value : Bytes) : Bytes := value.foldl appendByte out ++ [newline]

theorem appendByte_eq (out : Bytes) (b : UInt8) : appendByte out b = out ++ escape b := by
  unfold appendByte escape
  split
  · rfl
  · split <;> rfl

theorem foldl_appendByte (out value : Bytes) :
    value.foldl appendByte out = out ++ spelled value := by
  induction value generalizing out with
  | nil => exact (List.append_nil out).symm
  | cons b value ih => rw [List.foldl_cons, ih, appendByte_eq, spelled_cons, List.append_assoc]

theorem append_eq (out value : Bytes) : append out value = out ++ write value := by
  rw [append, foldl_appendByte, List.append_assoc]
  rfl

theorem foldl_append (out : Bytes) (values : List Bytes) :
    values.foldl append out = out ++ values.flatMap write := by
  induction values generalizing out with
  | nil => exact (List.append_nil out).symm
  | cons value values ih =>
    rw [List.foldl_cons, append_eq, ih, List.flatMap_cons, List.append_assoc]

/-! ## Reading -/

/-- The field at the start of the input and the number of bytes that it takes, its newline included.
The name is that of the field, for the fault. -/
def readField (name : String) (input : Bytes) : Except CodecFault (Bytes × Nat) :=
  ((read input).map fun r => (r.1, input.length - r.2.length)).mapError (.ofEscape name)

/-- A field takes a sequence that spells it, and the newline behind that. -/
theorem readField_eq_ok_iff : readField name input = .ok (value, used) ↔
    ∃ text, Spells text value ∧ input.take used = text ++ [newline] ∧ used = text.length + 1 := by
  rw [readField, Outcome.mapError_eq_ok_iff, Outcome.map_eq_ok_iff]
  constructor
  · intro h
    obtain ⟨⟨value, rest⟩, hread, heq⟩ := h
    cases heq
    have hsplit := read_eq_ok_iff.mp hread
    have hspells := spells_spelled value
    have hused : input.length - rest.length = (spelled value ++ [newline]).length := by
      rw [hsplit, hspells.write_eq, List.length_append, Nat.add_sub_cancel]
    refine ⟨spelled value, hspells, ?_, ?_⟩
    · rw [hused, hsplit, hspells.write_eq, List.take_left]
    · rw [hused, List.length_append, List.length_singleton]
  · intro h
    obtain ⟨text, htext, htake, hused⟩ := h
    have hsplit : input = write value ++ input.drop used := by
      rw [htext.write_eq, ← htake, List.take_append_drop]
    have hle : used ≤ input.length := by
      have hlength := congrArg List.length htake
      rw [List.length_take, List.length_append, List.length_singleton, ← hused] at hlength
      omega
    refine ⟨(value, input.drop used), read_eq_ok_iff.mpr hsplit, ?_⟩
    rw [List.length_drop, Nat.sub_sub_self hle]

theorem write_eq_take (h : readField name input = .ok (value, used)) :
    write value = input.take used := by
  obtain ⟨text, htext, htake, -⟩ := readField_eq_ok_iff.mp h
  rw [htake, htext.write_eq]

/-- A field that is written is read, whatever follows it. -/
theorem readField_write (name : String) (value rest : Bytes) :
    readField name (write value ++ rest) = .ok (value, (write value).length) := by
  have hwrite := (spells_spelled value).write_eq
  refine readField_eq_ok_iff.mpr ⟨spelled value, spells_spelled value, ?_, ?_⟩
  · rw [List.take_left, hwrite]
  · rw [hwrite, List.length_append, List.length_singleton]

/-! ## Faults -/

theorem readField_eq_error_iff {fault : Fault} :
    readField name input = .error (.ofEscape name fault) ↔ read input = .error fault := by
  rw [readField, Outcome.mapError_eq_error_iff]
  constructor
  · intro h
    obtain ⟨fault', h, heq⟩ := h
    have hsame : fault' = fault := by
      cases fault' <;> cases fault <;> cases heq <;> rfl
    rw [← hsame]
    exact Outcome.map_eq_error_iff.mp h
  · intro h
    exact ⟨fault, Outcome.map_eq_error_iff.mpr h, rfl⟩

/-- A field has no faults but those of its escaped form. -/
theorem fault_of_readField {fault : CodecFault} (h : readField name input = .error fault) :
    fault = .unterminated name ∨ ∃ p, fault = .invalidEscape name p := by
  obtain ⟨e, -, rfl⟩ := Outcome.mapError_eq_error_iff.mp h
  cases e with
  | unterminated => exact .inl rfl
  | invalid p => exact .inr ⟨p, rfl⟩

/-- An input has an invalid escape where a sequence is followed by a backslash that starts no pair. -/
theorem read_eq_invalid_iff : read input = .error (.invalid p) ↔
    (∃ value, Spells (input.take p) value) ∧ input[p]? = some backslash ∧
      input[p + 1]? ≠ some backslash ∧ input[p + 1]? ≠ some letterN := by
  rw [read_eq_error_iff]
  constructor
  · intro h
    cases h with
    | invalid value rest h hnext =>
      rw [h, Nat.zero_add, List.take_left]
      have hhead : (spelled value ++ backslash :: rest)[(spelled value).length + 1]? = rest.head? := by
        rw [List.getElem?_append_right (Nat.le_add_right _ 1), Nat.add_sub_cancel_left,
          List.getElem?_cons_succ, List.head?_eq_getElem?]
      rw [hhead]
      refine ⟨⟨value, spells_spelled value⟩, ?_, ?_, ?_⟩
      · rw [List.getElem?_append_right (Nat.le_refl _), Nat.sub_self]
        rfl
      · intro hc
        exact (hnext _ hc).1 rfl
      · intro hc
        exact (hnext _ hc).2 rfl
  · intro h
    obtain ⟨⟨value, hvalue⟩, hp, hb, hn⟩ := h
    have hsplit : input = spelled value ++ backslash :: input.drop (p + 1) := by
      rw [← hvalue.eq_spelled, ← Raw.drop_of_getElem? hp, List.take_append_drop]
    have hlength : 0 + (spelled value).length = p := by
      obtain ⟨hlt, -⟩ := List.getElem?_eq_some_iff.mp hp
      rw [← hvalue.eq_spelled, Nat.zero_add, List.length_take]
      omega
    rw [← hlength]
    refine .invalid value (input.drop (p + 1)) hsplit ?_
    intro c hc
    rw [List.head?_drop] at hc
    constructor
    · intro heq
      exact hb (heq ▸ hc)
    · intro heq
      exact hn (heq ▸ hc)

/-- An input has no newline that ends a field where all of it is a sequence. -/
theorem read_eq_unterminated_iff :
    read input = .error .unterminated ↔ ∃ value, Spells input value := by
  rw [read_eq_error_iff]
  constructor
  · intro h
    cases h with
    | unterminated value h => exact ⟨value, spells_iff.mpr h⟩
  · intro h
    obtain ⟨value, hvalue⟩ := h
    exact .unterminated value hvalue.eq_spelled

/-! ## Several fields -/

/-- Fields one after another, each under its name, and the bytes after them. -/
def readFields : List String → Bytes → Except CodecFault (List Bytes × Bytes)
  | [], input => .ok ([], input)
  | name :: names, input => do
    let (value, used) ← readField name input
    let (values, rest) ← readFields names (input.drop used)
    pure (value :: values, rest)

/-- As many fields are read as there are names, from what writing them produces. -/
theorem readFields_eq_ok_iff {names : List String} {values : List Bytes} :
    readFields names input = .ok (values, rest) ↔
      values.length = names.length ∧ input = values.flatMap write ++ rest := by
  induction names generalizing input values with
  | nil =>
    constructor
    · intro h
      cases h
      exact ⟨rfl, rfl⟩
    · intro h
      obtain ⟨hlength, hinput⟩ := h
      rw [List.length_eq_zero_iff.mp hlength] at hinput ⊢
      rw [hinput]
      rfl
  | cons name names ih =>
    constructor
    · intro h
      obtain ⟨⟨value, used⟩, hread, h⟩ := Outcome.bind_eq_ok_iff.mp h
      obtain ⟨⟨values, rest⟩, hmore, heq⟩ := Outcome.bind_eq_ok_iff.mp h
      cases heq
      obtain ⟨hlength, hdrop⟩ := ih.mp hmore
      refine ⟨by rw [List.length_cons, List.length_cons, hlength], ?_⟩
      rw [List.flatMap_cons, List.append_assoc, ← hdrop, write_eq_take hread,
        List.take_append_drop]
    · intro h
      obtain ⟨hlength, hinput⟩ := h
      cases values with
      | nil => cases hlength
      | cons value values =>
        rw [List.flatMap_cons, List.append_assoc] at hinput
        have hmore := ih.mpr ⟨Nat.succ.inj hlength, rfl⟩
        rw [hinput]
        refine Outcome.bind_eq_ok_iff.mpr ⟨_, readField_write name value _, ?_⟩
        refine Outcome.bind_eq_ok_iff.mpr ⟨(values, rest), ?_, rfl⟩
        rw [List.drop_left]
        exact hmore

/-- A field is read where a sequence and a newline start the input, whatever comes after them, and they
are what writing its value appends. Otherwise the fault is a backslash that starts no pair, behind a
sequence, or the want of a newline behind an input that is all a sequence. Any number of fields is read
from what writing them has appended, with anything before and after it. -/
theorem fields_delimit_themselves (name : String) (input : Bytes) :
    (Raw.escapedAt input 0 []).map (Except.mapError (.ofEscape name)) =
        some (readField name input) ∧
      (∀ value used, readField name input = .ok (value, used) ↔
        ∃ text, Spells text value ∧ input.take used = text ++ [newline] ∧
          used = text.length + 1) ∧
      (∀ value used, readField name input = .ok (value, used) →
        ∀ out, append out value = out ++ input.take used) ∧
      (∀ p, readField name input = .error (.invalidEscape name p) ↔
        (∃ value, Spells (input.take p) value) ∧ input[p]? = some backslash ∧
          input[p + 1]? ≠ some backslash ∧ input[p + 1]? ≠ some letterN) ∧
      (readField name input = .error (.unterminated name) ↔ ∃ value, Spells input value) ∧
      (∀ fault, readField name input = .error fault →
        fault = .unterminated name ∨ ∃ p, fault = .invalidEscape name p) ∧
      ∀ (names : List String) (values : List Bytes) (out rest : Bytes),
        names.length = values.length →
          readFields names ((values.foldl append out ++ rest).drop out.length) =
            .ok (values, rest) := by
  refine ⟨?loop, fun value used => readField_eq_ok_iff, ?written, fun p => ?invalid, ?unterminated,
    fun fault => fault_of_readField, ?fields⟩
  case loop =>
    rw [Raw.escapedAt_eq_some, List.drop_zero]
    rfl
  case written =>
    intro value used h out
    rw [append_eq, write_eq_take h]
  case invalid => exact readField_eq_error_iff.trans read_eq_invalid_iff
  case unterminated => exact readField_eq_error_iff.trans read_eq_unterminated_iff
  case fields =>
    intro names values out rest hlength
    rw [foldl_append, List.append_assoc, List.drop_left]
    exact readFields_eq_ok_iff.mpr ⟨hlength.symm, rfl⟩

/-- A name with a newline and a backslash in it, followed by bytes that spell nothing. -/
theorem fields_delimit_themselves_sample :
    readField "name" [97, 92, 110, 92, 92, 10, 92, 120] = .ok ([97, 10, 92], 6) ∧
      readField "name" [97, 92, 120, 10] = .error (.invalidEscape "name" 1) ∧
      append [10] [97, 10, 92] = [10, 97, 92, 110, 92, 92, 10] ∧
      readFields ["name", "data"] [92, 110, 10, 10, 92, 120] = .ok ([[10], []], [92, 120]) := by
  obtain ⟨-, hread, hwritten, -, -, -, hfields⟩ :=
    fields_delimit_themselves "name" [97, 92, 110, 92, 92, 10, 92, 120]
  obtain ⟨-, -, -, hinvalid, -, -, -⟩ := fields_delimit_themselves "name" [97, 92, 120, 10]
  have hspells : Spells [97, 92, 110, 92, 92] [97, 10, 92] :=
    .plain (by decide) (by decide) (.escapedNewline (.escapedBackslash .nil))
  have hok := (hread [97, 10, 92] 6).mpr ⟨_, hspells, rfl, rfl⟩
  have hplain : Spells [97] [97] := .plain (by decide) (by decide) .nil
  have hfault := (hinvalid 1).mpr ⟨⟨[97], hplain⟩, rfl, by decide, by decide⟩
  exact ⟨hok, hfault, hwritten _ _ hok [10], hfields ["name", "data"] [[10], []] [] [92, 120] rfl⟩

end FsGateway.Wire.Escape
