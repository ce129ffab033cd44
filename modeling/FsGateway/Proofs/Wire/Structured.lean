import FsGateway.Proofs.Json.Alike
import FsGateway.Proofs.Json.Values
import FsGateway.Proofs.Wire.RoundTrip

/-!
# JSON payloads are read by the names of their fields

A record is read from an object in which each of its names stands once, with a value of the type of
that field. What else the object holds does not matter, nor does the order in which it is written.

* `FieldType.Denotes`: the nodes that stand for the values of fields.
* `Operation.read_by_names`: how every message of the table is read from an object.
-/

namespace FsGateway.Wire

open FsGateway.Json (Node DenotedScalars)
open FsGateway.Json.Node (DocumentOf IsNamed Sole)

/-! ## Fields -/

/-- The nodes that stand for the value of a field. -/
inductive FieldType.Denotes : (t : FieldType) → Node → t.Value → Prop
  | bool (b : Bool) : Denotes (.fixed .bool) (.bool b) b
  | u32 (n : UInt32) : Denotes (.fixed .u32) (.number (Json.Number.natLexeme n.toNat)) n
  | u64 (n : UInt64) : Denotes (.fixed .u64) (.number (Json.Number.natLexeme n.toNat)) n
  | i64 (n : Int64) : Denotes (.fixed .i64) (.number (Json.Number.intLexeme n.toInt)) n
  | text {raw : Bytes} {s : String} :
      Json.Text.Spells raw s.toList → Denotes (.varying .text) (.string raw) s
  | blob (b : Bytes) : Denotes (.varying .blob)
      (.array (b.map fun x => .number (Json.Number.natLexeme x.toNat)) true) b

theorem readNat_eq_ok_iff {n : Node} {limit k : Nat} (hn : n.WellFormed) :
    readNat limit n = .ok k ↔ n = .number (Json.Number.natLexeme k) ∧ k < limit := by
  constructor
  · intro h
    obtain ⟨i, hread, rfl⟩ := Outcome.map_eq_ok_iff.mp h
    obtain ⟨rfl, hlow, hhigh⟩ := (Json.readInt_eq_ok_iff hn).mp hread
    obtain ⟨k, rfl⟩ := Int.eq_ofNat_of_zero_le hlow
    exact ⟨rfl, by rw [Int.toNat_natCast]; omega⟩
  · rintro ⟨rfl, hlt⟩
    exact readNat_natLexeme hlt

theorem readByte_eq_ok_iff (n : Node) (b : UInt8) (hn : n.WellFormed) :
    (readNat UInt8.size n).map UInt8.ofNat = .ok b ↔
      n = .number (Json.Number.natLexeme b.toNat) := by
  refine Outcome.map_eq_ok_iff.trans ⟨?_, ?_⟩
  · rintro ⟨k, hread, rfl⟩
    obtain ⟨rfl, hlt⟩ := (readNat_eq_ok_iff hn).mp hread
    rw [UInt8.toNat_ofNat_of_lt' hlt]
  · rintro rfl
    exact ⟨b.toNat, readNat_natLexeme (UInt8.toNat_lt b), UInt8.ofNat_toNat⟩

/-- Items that each are the node of a byte are the nodes of all bytes. -/
theorem forall₂_byte_iff {items : List Node} {bs : Bytes} :
    List.Forall₂ (fun n b => n = Node.number (Json.Number.natLexeme (UInt8.toNat b))) items bs ↔
      items = bs.map fun b => Node.number (Json.Number.natLexeme b.toNat) := by
  rw [← List.forall₂_eq_eq_eq, List.forall₂_map_right_iff]

theorem readField_eq_ok_iff {t : FieldType} {n : Node} {v : t.Value} (hn : n.WellFormed) :
    readField t n = .ok v ↔ FieldType.Denotes t n v := by
  rcases t with t | t
  · cases t with
    | bool =>
      refine Json.readBool_eq_ok_iff.trans ⟨?_, fun h => ?_⟩
      · rintro rfl
        exact .bool v
      · cases h
        rfl
    | u32 =>
      refine Outcome.map_eq_ok_iff.trans ⟨?_, fun h => ?_⟩
      · rintro ⟨k, hread, rfl⟩
        obtain ⟨rfl, hlt⟩ := (readNat_eq_ok_iff hn).mp hread
        have hdenotes := FieldType.Denotes.u32 (UInt32.ofNat k)
        rwa [UInt32.toNat_ofNat_of_lt' hlt] at hdenotes
      · cases h
        exact ⟨_, readNat_natLexeme (UInt32.toNat_lt v), UInt32.ofNat_toNat⟩
    | u64 =>
      refine Outcome.map_eq_ok_iff.trans ⟨?_, fun h => ?_⟩
      · rintro ⟨k, hread, rfl⟩
        obtain ⟨rfl, hlt⟩ := (readNat_eq_ok_iff hn).mp hread
        have hdenotes := FieldType.Denotes.u64 (UInt64.ofNat k)
        rwa [UInt64.toNat_ofNat_of_lt' hlt] at hdenotes
      · cases h
        exact ⟨_, readNat_natLexeme (UInt64.toNat_lt v), UInt64.ofNat_toNat⟩
    | i64 =>
      refine Outcome.map_eq_ok_iff.trans ⟨?_, fun h => ?_⟩
      · rintro ⟨i, hread, rfl⟩
        obtain ⟨rfl, hlow, hhigh⟩ := (Json.readInt_eq_ok_iff hn).mp hread
        have hi : (Int64.ofInt i).toInt = i := Int64.toInt_ofInt_of_le hlow (by
          have : Int64.maxValue.toInt = 2 ^ 63 - 1 := rfl
          omega)
        have hdenotes := FieldType.Denotes.i64 (Int64.ofInt i)
        rwa [hi] at hdenotes
      · cases h
        exact ⟨_, (Json.readInt_eq_ok_iff hn).mpr ⟨rfl, Int64.minValue_le_toInt v, Int64.toInt_le v⟩,
          Int64.ofInt_toInt v⟩
  · cases t with
    | text =>
      refine (Json.readText_eq_ok_iff hn).trans ⟨?_, fun h => ?_⟩
      · rintro ⟨raw, rfl, h⟩
        exact .text h
      · cases h with
        | text h => exact ⟨_, rfl, h⟩
    | blob =>
      refine (Json.readItems_eq_ok_iff readByte_eq_ok_iff hn).trans ?_
      constructor
      · rintro ⟨items, rfl, hitems⟩
        rw [forall₂_byte_iff.mp hitems]
        exact .blob v
      · intro h
        cases h
        exact ⟨_, rfl, forall₂_byte_iff.mpr rfl⟩

instance : DenotedScalars FieldType where
  Denotes := FieldType.Denotes
  ofNode_eq_ok_iff := readField_eq_ok_iff

/-! ## Records -/

namespace Record

variable {R : Type} [Record R]

theorem ofNode_eq_ok_iff (h : (Record.schema R).Distinct) {n : Node} (hn : n.WellFormed) {r : R} :
    ofNode n = .ok r ↔ (Record.schema R).Stands n (toTuple r) := by
  refine Outcome.map_eq_ok_iff.trans ⟨?_, fun hr => ?_⟩
  · rintro ⟨v, hread, rfl⟩
    rw [toTuple_ofTuple]
    exact (Json.Schema.ofNode_eq_ok_iff h hn).mp hread
  · exact ⟨toTuple r, (Json.Schema.ofNode_eq_ok_iff h hn).mpr hr, ofTuple_toTuple r⟩

end Record

namespace Encoding

variable {R : Type} [Record R] {l : Layout} {n : Node} {body : Bytes}

theorem decode_generic_eq_ok_iff (hl : l.isEmpty = false) (h : (Record.schema R).Distinct)
    (hbody : DocumentOf n body) {r : R} :
    generic.decode l body = .ok r ↔ (Record.schema R).Stands n (Record.toTuple r) := by
  rw [decode, if_neg (by simp [hl])]
  refine Outcome.mapError_eq_ok_iff.trans (Json.readDocument_eq_ok_iff.trans ?_)
  rw [← Record.ofNode_eq_ok_iff h hbody.wellFormed]
  constructor
  · rintro ⟨n', hbody', hread⟩
    have hparse := (Node.parse_eq_iff.mpr hbody').symm.trans (Node.parse_eq_iff.mpr hbody)
    cases hparse
    exact hread
  · exact fun hread => ⟨n, hbody, hread⟩

/-- A JSON payload of a record that is not read does not have the expected form. -/
theorem decode_generic_cases (R : Type) [Record R] (hl : l.isEmpty = false) (body : Bytes) :
    (∃ r : R, generic.decode l body = .ok r) ∨
      ∃ reason, generic.decode (R := R) l body = .error (.structured reason) := by
  rw [decode, if_neg (by simp [hl])]
  cases Json.readDocument (Record.ofNode (R := R)) body with
  | ok r => exact .inl ⟨r, rfl⟩
  | error fault => exact .inr ⟨fault.message, rfl⟩

/-- Two JSON payloads are read as the same record, or neither is read. -/
def ReadAlike (R : Type) [Record R] (l : Layout) (body body' : Bytes) : Prop :=
  (∃ r : R, generic.decode l body = .ok r ∧ generic.decode l body' = .ok r) ∨
    ∃ reason reason', generic.decode (R := R) l body = .error (.structured reason) ∧
      generic.decode (R := R) l body' = .error (.structured reason')

theorem readAlike_of_iff (hl : l.isEmpty = false) {body' : Bytes}
    (h : ∀ r : R, generic.decode l body = .ok r ↔ generic.decode l body' = .ok r) :
    ReadAlike R l body body' := by
  rcases decode_generic_cases R hl body with ⟨r, hr⟩ | ⟨reason, herror⟩
  · exact .inl ⟨r, hr, (h r).mp hr⟩
  · rcases decode_generic_cases R hl body' with ⟨r, hr⟩ | ⟨reason', herror'⟩
    · cases herror.symm.trans ((h r).mpr hr)
    · exact .inr ⟨reason, reason', herror, herror'⟩

theorem rejected_of_not_ok (hl : l.isEmpty = false)
    (h : ∀ r : R, generic.decode l body ≠ .ok r) :
    ∃ reason, generic.decode (R := R) l body = .error (.structured reason) :=
  (decode_generic_cases R hl body).resolve_left fun ⟨r, hr⟩ => h r hr

end Encoding

/-! ## Messages of the table -/

namespace Operation

/-- No field of a message may be left out. -/
theorem required (op : Operation) (side : Side) : (Record.schema (op.Message side)).Required := by
  have hrequest : ∀ op : Operation, (Record.schema op.Request).Required := by decide
  have hresponse : ∀ op : Operation, (Record.schema op.Response).Required := by decide
  cases side with
  | request => exact hrequest op
  | response => exact hresponse op

/-- A message is read from an object by the names of its fields. The object may have members with
other names. Their values, the order of all members and the space between them make no difference.
Where a name is missing or stands twice, or its value does not fit the field, nothing is read. -/
theorem read_by_names (op : Operation) (side : Side) (hl : (op.layout side).isEmpty = false)
    {ms : List (Bytes × Node)} {body : Bytes} (hbody : DocumentOf (.object ms true) body) :
    (∀ r : op.Message side, Encoding.generic.decode (op.layout side) body = .ok r ↔
      (∀ m ∈ ms, ∃ name, IsNamed name m) ∧
        (Record.schema (op.Message side)).ByName ms (Record.toTuple r)) ∧
    (∀ ms' body', (Record.schema (op.Message side)).Alike ms ms' →
      DocumentOf (.object ms' true) body' →
        Encoding.ReadAlike (op.Message side) (op.layout side) body body') ∧
    ∀ name ∈ (Record.schema (op.Message side)).names,
      (¬ ∃ n, Sole name n ms ∧ (Record.schema (op.Message side)).Fits name n) →
        ∃ reason, Encoding.generic.decode (R := op.Message side) (op.layout side) body =
          .error (.structured reason) := by
  have hdistinct := op.distinct side
  have hread : ∀ r : op.Message side, Encoding.generic.decode (op.layout side) body = .ok r ↔
      (∀ m ∈ ms, ∃ name, IsNamed name m) ∧
        (Record.schema (op.Message side)).ByName ms (Record.toTuple r) := fun r =>
    (Encoding.decode_generic_eq_ok_iff hl hdistinct hbody).trans Json.Schema.stands_object_iff
  refine ⟨hread, fun ms' body' halike hbody' => ?_, fun name hname hfits => ?_⟩
  · refine Encoding.readAlike_of_iff hl fun r => ?_
    rw [Encoding.decode_generic_eq_ok_iff hl hdistinct hbody,
      Encoding.decode_generic_eq_ok_iff hl hdistinct hbody']
    exact halike.stands_iff hdistinct (Record.toTuple r)
  · exact Encoding.rejected_of_not_ok hl fun r hr =>
      hfits (((hread r).mp hr).2.exists_fits (op.required side) name hname)

/-- Members of a request to remove an extended attribute, with another in front of them. Names and
values are spelled in unusual ways. -/
def attributeMembers : List (Bytes × Node) :=
  [(Text.encode "x", .object [(Text.encode "inode", .array [.number (Text.encode "-1.5e3"),
      .string (Text.encode "\\ud800")] true)] true),
   (Text.encode "name", .string (Text.encode "\\u00e9\\ud83d\\ude00")),
   (Text.encode "\\u0069node", .number (Text.encode "18446744073709551615"))]

theorem read_by_names_attribute :
    (removexattr.layout .request).isEmpty = false ∧
    DocumentOf (.object attributeMembers true) (0x20 :: (Node.object attributeMembers true).print) ∧
    (Record.schema RemovexattrRequest).ByName attributeMembers
      (Record.toTuple (R := RemovexattrRequest) ⟨18446744073709551615, "é😀"⟩) ∧
    Encoding.ReadAlike RemovexattrRequest (removexattr.layout .request)
      (0x20 :: (Node.object attributeMembers true).print)
      (Node.object attributeMembers.reverse true).print := by
  have hl : (removexattr.layout .request).isEmpty = false := by decide
  have hbody : DocumentOf (.object attributeMembers true)
      (0x20 :: (Node.object attributeMembers true).print) := Node.parse_eq_iff.mp rfl
  have hbody' : DocumentOf (.object attributeMembers.reverse true)
      (Node.object attributeMembers.reverse true).print := Node.parse_eq_iff.mp rfl
  obtain ⟨hread, halike, -⟩ := read_by_names removexattr .request hl hbody
  refine ⟨hl, hbody, ((hread ⟨18446744073709551615, "é😀"⟩).mp rfl).2, ?_⟩
  exact halike _ _ (.perm (List.reverse_perm _).symm) hbody'

end Operation

end FsGateway.Wire
