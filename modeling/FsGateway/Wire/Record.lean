import FsGateway.Json.Schema
import FsGateway.Wire.Raw

/-!
# Wire records

A wire record is a type whose values correspond to the tuples of a schema over field types. From
the schema follow the list of its fields, its values as a list of field values, and the way back.

* `length_flatten`: a record has as many values as fields.
* `unflatten_flatten`: a record is rebuilt from its values, and what follows them is left over.
-/

namespace FsGateway.Wire

open FsGateway.Json (Scalars Node Fault)

/-! ## Field types in JSON -/

/-- The word of a node. -/
def readNat (limit : Nat) (n : Node) : Except Fault Nat :=
  (Json.readInt 0 (limit - 1) n).map Int.toNat

/-- The form in which a value is written: blobs are arrays of their bytes. -/
def fieldNode : (t : FieldType) → t.Value → Node
  | .fixed .bool, b => .bool b
  | .fixed .u32, n => .number (Json.Number.natLexeme (UInt32.toNat n))
  | .fixed .u64, n => .number (Json.Number.natLexeme (UInt64.toNat n))
  | .fixed .i64, n => .number (Json.Number.intLexeme (Int64.toInt n))
  | .varying .text, s => Node.ofText s
  | .varying .blob, b => .array (b.map fun x => .number (Json.Number.natLexeme (UInt8.toNat x))) true

/-- The value of a node. -/
def readField : (t : FieldType) → Node → Except Fault t.Value
  | .fixed .bool, n => Json.readBool n
  | .fixed .u32, n => (readNat UInt32.size n).map UInt32.ofNat
  | .fixed .u64, n => (readNat UInt64.size n).map UInt64.ofNat
  | .fixed .i64, n => (Json.readInt Int64.minValue.toInt Int64.maxValue.toInt n).map Int64.ofInt
  | .varying .text, n => Json.readText n
  | .varying .blob, n => Json.readItems (fun x => (readNat UInt8.size x).map UInt8.ofNat) n

instance : Scalars FieldType where
  Value := FieldType.Value
  toNode := fieldNode
  ofNode := readField

/-- The fields of a wire record. -/
abbrev Schema := Json.Schema FieldType

namespace Schema

/-- The fields in declaration order, those of nested records in their place. -/
def describe : Schema → List Field
  | .done => []
  | .field name t _ rest => ⟨name, t⟩ :: describe rest
  | .nested _ inner rest => describe inner ++ describe rest

/-- The values in declaration order. -/
def flatten : (s : Schema) → s.Tuple → List FieldValue
  | .done, _ => []
  | .field _ t _ rest, (v, vs) => FieldValue.of t v :: flatten rest vs
  | .nested _ inner rest, (v, vs) => flatten inner v ++ flatten rest vs

/-- The record at the start of a list of values, and the values after it. -/
def unflatten : (s : Schema) → List FieldValue → Except CodecFault (s.Tuple × List FieldValue)
  | .done, values => .ok ((), values)
  | .field name t _ rest, values =>
    match values with
    | [] => .error (.missingField name)
    | f :: values =>
      match f.as? t with
      | none => .error (.fieldMismatch name t f.type)
      | some v => (unflatten rest values).map fun r => ((v, r.1), r.2)
  | .nested _ inner rest, values => do
    let (v, values) ← unflatten inner values
    (unflatten rest values).map fun r => ((v, r.1), r.2)

theorem length_flatten (s : Schema) (v : s.Tuple) : (flatten s v).length = (describe s).length := by
  induction s with
  | done => rfl
  | field _ _ _ rest ih =>
    obtain ⟨v, vs⟩ := v
    simp [flatten, describe, ih]
  | nested _ inner rest ih₁ ih₂ =>
    obtain ⟨v, vs⟩ := v
    simp [flatten, describe, ih₁, ih₂]

theorem unflatten_flatten (s : Schema) (v : s.Tuple) (extra : List FieldValue) :
    unflatten s (flatten s v ++ extra) = .ok (v, extra) := by
  induction s generalizing extra with
  | done => rfl
  | field name t _ rest ih =>
    obtain ⟨v, vs⟩ := v
    have hv := FieldValue.as_of t v
    simp only [flatten, unflatten, List.cons_append]
    split
    · next h =>
      rw [hv] at h
      cases h
    · next h =>
      rw [hv] at h
      cases h
      rw [ih]
      rfl
  | nested _ inner rest ih₁ ih₂ =>
    obtain ⟨v, vs⟩ := v
    simp only [flatten, unflatten, List.append_assoc]
    rw [ih₁]
    change Except.map _ (unflatten rest (flatten rest vs ++ extra)) = _
    rw [ih₂]
    rfl

end Schema

/-! ## Records -/

/-- A type of records with its name and its fields. -/
class Record (R : Type) where
  name : String
  schema : Schema
  toTuple : R → schema.Tuple
  ofTuple : schema.Tuple → R
  ofTuple_toTuple : ∀ r, ofTuple (toTuple r) = r
  toTuple_ofTuple : ∀ t, toTuple (ofTuple t) = t

namespace Record

variable (R : Type) [Record R]

/-- The fields of a record. -/
def fields : List Field := Schema.describe (Record.schema R)

variable {R}

/-- The values of a record. -/
def flatten (r : R) : List FieldValue := Schema.flatten (Record.schema R) (toTuple r)

/-- The record at the start of a list of values, and the values after it. -/
def unflatten (values : List FieldValue) : Except CodecFault (R × List FieldValue) :=
  (Schema.unflatten (Record.schema R) values).map fun p => (ofTuple p.1, p.2)

theorem unflatten_flatten (r : R) (extra : List FieldValue) :
    unflatten (flatten r ++ extra) = .ok (r, extra) := by
  unfold unflatten flatten
  rw [Schema.unflatten_flatten]
  simp [Except.map, ofTuple_toTuple]

/-- A record as a JSON object. -/
def toNode (r : R) : Json.Node := (Record.schema R).toNode (toTuple r)

/-- The record of a JSON node. -/
def ofNode (n : Json.Node) : Except Json.Fault R := ((Record.schema R).ofNode n).map ofTuple

end Record

end FsGateway.Wire
