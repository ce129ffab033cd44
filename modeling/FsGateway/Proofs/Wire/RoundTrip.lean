import FsGateway.Proofs.Json.Records
import FsGateway.Proofs.Wire.Raw
import FsGateway.Wire.Encoding

/-!
# Messages are read as they are written

A record whose fields have different names is read back from its payload, in both encodings, under
every layout that has its fields. The records of all operations are of that kind, and the registry
of the table gives each of them such a layout.

* `Schema.map_type_flatten`: the values of a record have the types of its fields.
* `Encoding.decode_encode`: a record is read from its payload.
* `Registry.ofEntries_entries`: the registry of the table is made from its entries.
* `Operation.message_round_trip`: every message of the table is read as it is written.
* `Encoding.decodeError_encodeError`: an error number is read from the body that reports it.
-/

namespace FsGateway.Wire

open FsGateway.Json (Node LawfulScalars)

/-! ## Fields as JSON -/

theorem readNat_natLexeme {limit n : Nat} (h : n < limit) :
    readNat limit (.number (Json.Number.natLexeme n)) = .ok n := by
  have hlexeme : Json.Number.natLexeme n = Json.Number.intLexeme n := rfl
  rw [readNat, hlexeme, Json.readInt_intLexeme (Int.natCast_nonneg n) (by omega)]
  rfl

theorem isLexeme_natLexeme (n : Nat) : Node.IsLexeme (Json.Number.natLexeme n) :=
  Node.isLexeme_intLexeme n

theorem fieldNode_spelled (t : FieldType) (v : t.Value) : (fieldNode t v).Spelled := by
  rcases t with t | t
  · cases t with
    | bool => trivial
    | u32 => exact isLexeme_natLexeme _
    | u64 => exact isLexeme_natLexeme _
    | i64 => exact Node.isLexeme_intLexeme _
  · cases t with
    | text => exact Node.isRaw_raw v
    | blob =>
      refine ⟨rfl, Node.allSpelled_of_forall fun n hn => ?_⟩
      obtain ⟨b, -, rfl⟩ := List.mem_map.mp hn
      exact isLexeme_natLexeme _

theorem readField_fieldNode (t : FieldType) (v : t.Value) : readField t (fieldNode t v) = .ok v := by
  rcases t with t | t
  · cases t with
    | bool => rfl
    | u32 =>
      rw [fieldNode, readField, readNat_natLexeme (UInt32.toNat_lt v)]
      exact congrArg Except.ok (UInt32.ofNat_toNat (x := v))
    | u64 =>
      rw [fieldNode, readField, readNat_natLexeme (UInt64.toNat_lt v)]
      exact congrArg Except.ok (UInt64.ofNat_toNat (x := v))
    | i64 =>
      have hread := Json.readInt_intLexeme (Int64.minValue_le_toInt v) (Int64.toInt_le v)
      rw [fieldNode, readField, hread]
      exact congrArg Except.ok (Int64.ofInt_toInt v)
  · cases t with
    | text => exact Json.readText_ofText v
    | blob =>
      refine Json.readItems_map (fun b => ?_) v
      rw [readNat_natLexeme (UInt8.toNat_lt b)]
      exact congrArg Except.ok (UInt8.ofNat_toNat (x := b))

instance : LawfulScalars FieldType where
  spelled := fieldNode_spelled
  ofNode_toNode := readField_fieldNode

/-! ## Records -/

theorem Schema.map_type_flatten (s : Schema) (v : s.Tuple) :
    (flatten s v).map (·.type) = (describe s).map (·.type) := by
  induction s with
  | done => rfl
  | field _ t _ rest ih =>
    obtain ⟨v, vs⟩ := v
    rw [flatten, describe, List.map_cons, List.map_cons, FieldValue.type_of, ih]
  | nested _ inner rest ih₁ ih₂ =>
    obtain ⟨v, vs⟩ := v
    rw [flatten, describe, List.map_append, List.map_append, ih₁, ih₂]

namespace Record

variable {R : Type} [Record R]

theorem map_type_flatten (r : R) : (flatten r).map (·.type) = (fields R).map (·.type) :=
  Schema.map_type_flatten _ _

theorem flatten_eq_nil (h : fields R = []) (r : R) : flatten r = [] := by
  have htypes := map_type_flatten r
  rw [h] at htypes
  exact List.map_eq_nil_iff.mp htypes

theorem unflatten_self (r : R) : unflatten (flatten r) = .ok (r, []) := by
  have h := unflatten_flatten r []
  rw [List.append_nil] at h
  exact h

theorem ofNode_toNode (h : (Record.schema R).Distinct) (r : R) : ofNode (toNode r) = .ok r := by
  rw [ofNode, toNode, Json.Schema.ofNode_toNode _ h]
  exact congrArg Except.ok (ofTuple_toTuple r)

end Record

/-! ## Payloads -/

theorem Layout.fields_eq_nil {l : Layout} (h : l.isEmpty = true) : l.fields = [] := by
  obtain ⟨hhead, htail⟩ := (Bool.and_eq_true _ _).mp h
  rw [fields, List.isEmpty_iff.mp hhead, List.isEmpty_iff.mp htail]
  rfl

/-- A record is read from its payload. -/
theorem Encoding.decode_encode {R : Type} [Record R] {l : Layout}
    (hnames : (Record.schema R).Distinct) (hfields : l.fields = Record.fields R) (e : Encoding)
    (r : R) : ∃ body, e.encode l r = .ok body ∧ e.decode l body = .ok r := by
  by_cases hempty : l.isEmpty = true
  · have hnil : Record.flatten r = [] :=
      Record.flatten_eq_nil (hfields ▸ Layout.fields_eq_nil hempty) r
    refine ⟨[], if_pos hempty, ?_⟩
    rw [decode.eq_def, if_pos hempty, ← hnil, Record.unflatten_self]
    rfl
  · cases e with
    | generic =>
      refine ⟨(Record.toNode r).print, if_neg hempty, ?_⟩
      rw [decode, if_neg hempty]
      refine Outcome.mapError_eq_ok_iff.mpr ?_
      exact Json.readDocument_print (Json.Schema.toNode_spelled _ _) (Record.ofNode_toNode hnames r)
    | raw =>
      have htypes : (Record.flatten r).map (·.type) = l.fields.map (·.type) := by
        rw [hfields]
        exact Record.map_type_flatten r
      obtain ⟨body, hbody⟩ := Raw.exists_encode htypes
      refine ⟨body, (if_neg hempty).trans hbody, ?_⟩
      rw [decode, if_neg hempty]
      refine Outcome.bind_eq_ok_iff.mpr ⟨_, Raw.decode_encode hbody, ?_⟩
      exact Outcome.bind_eq_ok_iff.mpr ⟨_, Record.unflatten_self r, rfl⟩

/-! ## The table -/

namespace Registry

/-- The registry of the table is made from its entries. -/
theorem ofEntries_entries : ofEntries entries = .ok builtin := by
  have hregister : entries.foldlM register [] = .ok builtin.rows := rfl
  have hcovered : Operation.all.find? (fun op => (find? builtin.rows op).isNone) = none := by decide
  have hfind : ∀ op, find? builtin.rows op = some (builtin.descriptor op) := by decide
  refine Outcome.bind_eq_ok_iff.mpr ⟨builtin.rows, hregister, ?_⟩
  unfold complete
  split
  · rename_i op hmissing
    rw [hcovered] at hmissing
    cases hmissing
  · refine congrArg (Except.ok ∘ Registry.mk) (funext fun op => ?_)
    exact Option.get_of_eq_some _ (hfind op)

end Registry

namespace Operation

/-- No two fields of a message have the same name. -/
theorem distinct (op : Operation) (side : Side) : (Record.schema (op.Message side)).Distinct := by
  have hrequest : ∀ op : Operation, (Record.schema op.Request).Distinct := by decide
  have hresponse : ∀ op : Operation, (Record.schema op.Response).Distinct := by decide
  cases side with
  | request => exact hrequest op
  | response => exact hresponse op

/-- The layout of a message has the fields of its record. -/
theorem fields_layout (op : Operation) (side : Side) :
    (op.layout side).fields = Record.fields (op.Message side) := by
  have hrequest : ∀ op : Operation, op.requestLayout.fields = Record.fields op.Request := by decide
  have hresponse : ∀ op : Operation, op.responseLayout.fields = Record.fields op.Response := by
    decide
  cases side with
  | request => exact hrequest op
  | response => exact hresponse op

/-- Every message of the table is read as it is written, under the layout that is registered for it
and in both encodings. Its values are those of its fields, and it is rebuilt from them, whatever
follows. -/
theorem message_round_trip :
    Registry.ofEntries Registry.entries = .ok Registry.builtin ∧
    ∀ (op : Operation) (side : Side) (r : op.Message side),
      (Record.flatten r).map (·.type) = (Record.fields (op.Message side)).map (·.type) ∧
      (∀ extra, Record.unflatten (Record.flatten r ++ extra) = .ok (r, extra)) ∧
      ∀ e : Encoding, ∃ body,
        e.encode (op.layout side) r = .ok body ∧ e.decode (op.layout side) body = .ok r := by
  refine ⟨Registry.ofEntries_entries, fun op side r => ⟨?_, ?_, fun e => ?_⟩⟩
  · exact Record.map_type_flatten r
  · exact Record.unflatten_flatten r
  · exact Encoding.decode_encode (op.distinct side) (op.fields_layout side) e r

end Operation

/-! ## Error bodies -/

theorem signed32_wordBytes (n : Int32) : signed32 (wordValue (wordBytes 4 n.toUInt32.toNat)) = n := by
  have hcount : wordCount 4 = 4294967296 := by decide
  have hlt : n.toUInt32.toNat < 4294967296 := n.toUInt32.toNat_lt
  rw [wordValue_wordBytes, hcount, Nat.mod_eq_of_lt hlt]
  exact congrArg UInt32.toInt32 UInt32.ofNat_toNat

namespace Encoding

/-- The message that an error body carries. The raw encoding carries none, and an empty message
counts as none. -/
def carried (e : Encoding) (message : String) : Option String :=
  match e with
  | generic => if message = "" then none else some message
  | raw => none

theorem readDocument_errorBody (b : ErrorBody) :
    Json.readDocument ErrorBody.ofNode b.toNode.print = .ok b := by
  have hnames : ErrorBody.schema.Distinct := by decide
  have hread := Json.Schema.ofNode_toNode ErrorBody.schema hnames (b.errno, b.message, ())
  exact Json.readDocument_print (ErrorBody.schema.toNode_spelled _) (congrArg (Except.map _) hread)

/-- An error number is read from the body that reports it, and so is a message that the body
carries. -/
theorem decodeError_encodeError (e : Encoding) (errno : Int32) (message : String) :
    e.decodeError (e.encodeError errno message) = some (errno, e.carried message) := by
  cases e with
  | generic =>
    rw [decodeError, encodeError, readDocument_errorBody]
    rfl
  | raw =>
    rw [decodeError, encodeError, if_pos (length_wordBytes 4 _), signed32_wordBytes]
    rfl

end Encoding

end FsGateway.Wire
