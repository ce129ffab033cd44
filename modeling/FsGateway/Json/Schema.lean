import FsGateway.Json.Number

/-!
# Records as JSON

A schema lists the fields of a record: scalars of some universe, and records nested in it. It
determines the type of the record's values as nested pairs, how they are written as a JSON object,
and how they are read back.

A record is read from an object, by member names, or from an array, by position. Reading goes from
left to right and reports the first fault it meets, of one of two kinds: the text is not JSON, or
it is JSON of the wrong form. Members with unknown names are passed over; they need only be JSON.
-/

namespace FsGateway.Json

/-- Why no record can be read. -/
inductive Fault
  /-- The text is no JSON. -/
  | malformed
  /-- The text is JSON up to here, but does not have the expected form. -/
  | mismatch
  deriving DecidableEq, Repr

/-- The wording of a fault. -/
def Fault.message : Fault → String
  | malformed => "the text is no JSON"
  | mismatch => "the text does not have the expected form"

/-- A universe of scalar types with their JSON forms. -/
class Scalars (S : Type) where
  /-- The values of a type. -/
  Value : S → Type
  /-- The form in which a value is written. -/
  toNode : (t : S) → Value t → Node
  /-- The value of a node. -/
  ofNode : (t : S) → Node → Except Fault (Value t)

/-- The fault of a node that should have been a scalar of another type. A string or number that
cannot be read as one is a fault of the text. -/
def rejectScalar : Node → Fault
  | .string raw => if (Text.value? raw).isSome then .mismatch else .malformed
  | .number lexeme => if Number.isOutOfRange lexeme then .malformed else .mismatch
  | .broken => .malformed
  | _ => .mismatch

/-- The text of a string node. -/
def readText : Node → Except Fault String
  | .string raw => (Text.value? raw).elim (.error .malformed) .ok
  | n => .error (rejectScalar n)

/-- The integer of a number node, between `low` and `high`. -/
def readInt (low high : Int) : Node → Except Fault Int
  | .number lexeme =>
    match Number.integer? lexeme with
    | some i => if low ≤ i ∧ i ≤ high then .ok i else .error (rejectScalar (.number lexeme))
    | none => .error (rejectScalar (.number lexeme))
  | n => .error (rejectScalar n)

/-- The truth value of a node. -/
def readBool : Node → Except Fault Bool
  | .bool b => .ok b
  | n => .error (rejectScalar n)

/-- The items of an array, each read in turn. -/
def readItems {α : Type} (item : Node → Except Fault α) : Node → Except Fault (List α)
  | .array items closed => do
    let vs ← items.mapM item
    if closed then .ok vs else .error .malformed
  | n => .error (rejectScalar n)

/-- The fields of a record. -/
inductive Schema (S : Type) [Scalars S]
  | done
  /-- A scalar, with the value that it takes when it is left out. -/
  | field (name : String) (type : S) (fallback : Option (Scalars.Value type)) (rest : Schema S)
  /-- A record within the record. -/
  | nested (name : String) (inner rest : Schema S)

namespace Schema

variable {S : Type} [Scalars S]

/-- The values of a record. -/
def Tuple : Schema S → Type
  | done => Unit
  | field _ t _ rest => Scalars.Value t × rest.Tuple
  | nested _ inner rest => inner.Tuple × rest.Tuple

/-- The values of a record that have been read so far. -/
def Slots : Schema S → Type
  | done => Unit
  | field _ t _ rest => Option (Scalars.Value t) × rest.Slots
  | nested _ inner rest => Option inner.Tuple × rest.Slots

/-- The names of the fields. -/
def names : Schema S → List String
  | done => []
  | field name _ _ rest => name :: rest.names
  | nested name _ rest => name :: rest.names

/-! ## Writing -/

/-- The members of a record, in the order of its fields. -/
def toMembers : (s : Schema S) → s.Tuple → List (Bytes × Node)
  | done, _ => []
  | field name t _ rest, (v, vs) => (Text.raw name, Scalars.toNode t v) :: rest.toMembers vs
  | nested name inner rest, (v, vs) =>
    (Text.raw name, .object (inner.toMembers v) true) :: rest.toMembers vs

/-- A record as an object. -/
def toNode (s : Schema S) (v : s.Tuple) : Node := .object (s.toMembers v) true

/-! ## Reading -/

/-- Nothing read yet. -/
def emptySlots : (s : Schema S) → s.Slots
  | done => ()
  | field _ _ _ rest => (none, rest.emptySlots)
  | nested _ _ rest => (none, rest.emptySlots)

/-- The record whose fields have been read. A field that was left out takes its fallback. -/
def finish : (s : Schema S) → s.Slots → Except Fault s.Tuple
  | done, _ => .ok ()
  | field _ _ fallback rest, (slot, slots) =>
    match slot.or fallback with
    | some v => (rest.finish slots).map (v, ·)
    | none => .error .mismatch
  | nested _ _ rest, (slot, slots) =>
    match slot with
    | some v => (rest.finish slots).map (v, ·)
    | none => .error .mismatch

/-- The two ways of reading a record: member by member, and item by item. -/
structure Reader (s : Schema S) where
  /-- The slots after one more member. -/
  member : String → Node → s.Slots → Except Fault s.Slots
  /-- The record whose fields are the items of an array, in order. -/
  items : List Node → (closed : Bool) → Except Fault s.Tuple

/-- The slots after all members. A member name must be text. -/
def Reader.members {s : Schema S} (r : Reader s) :
    List (Bytes × Node) → s.Slots → Except Fault s.Slots
  | [], slots => .ok slots
  | (raw, n) :: ms, slots =>
    match Text.value? raw with
    | some name => do r.members ms (← r.member name n slots)
    | none => .error .malformed

/-- The record of a node. -/
def Reader.record {s : Schema S} (r : Reader s) : Node → Except Fault s.Tuple
  | .object members closed => do
    let slots ← r.members members s.emptySlots
    if closed then s.finish slots else .error .malformed
  | .array items closed => r.items items closed
  | n => .error (rejectScalar n)

/-- How the records of a schema are read. A field that occurs a second time is a fault before its
value is looked at. -/
def reader : (s : Schema S) → Reader s
  | done =>
    { member := fun _ n slots => if n.isWhole then .ok slots else .error .malformed
      items := fun items closed =>
        if items.isEmpty && closed then .ok () else .error .malformed }
  | field name t fallback rest =>
    { member := fun key n (slot, slots) =>
        if key = name then
          if slot.isSome then .error .mismatch
          else (Scalars.ofNode t n).map fun v => (some v, slots)
        else (rest.reader.member key n slots).map (slot, ·)
      items := fun items closed =>
        match items with
        | n :: items => do
          let v ← Scalars.ofNode t n
          (rest.reader.items items closed).map (v, ·)
        | [] =>
          if closed then
            match fallback with
            | some v => (rest.reader.items [] closed).map (v, ·)
            | none => .error .mismatch
          else .error .malformed }
  | nested name inner rest =>
    { member := fun key n (slot, slots) =>
        if key = name then
          if slot.isSome then .error .mismatch
          else (inner.reader.record n).map fun v => (some v, slots)
        else (rest.reader.member key n slots).map (slot, ·)
      items := fun items closed =>
        match items with
        | n :: items => do
          let v ← inner.reader.record n
          (rest.reader.items items closed).map (v, ·)
        | [] => .error (if closed then .mismatch else .malformed) }

/-- The record of a node. -/
def ofNode (s : Schema S) (n : Node) : Except Fault s.Tuple := s.reader.record n

end Schema

/-! ## Documents -/

/-- What a reader makes of a whole document. Anything but space after it is a fault of the text,
after every fault within it. -/
def readDocument {α : Type} (read : Node → Except Fault α) (b : Bytes) : Except Fault α := do
  let (n, atEnd) := Node.parse b
  let v ← read n
  if atEnd then .ok v else .error .malformed

end FsGateway.Json
