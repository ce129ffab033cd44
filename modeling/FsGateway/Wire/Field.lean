import FsGateway.Bytes
import FsGateway.Text.Utf8

/-!
# Fields of a record

A field is a name with a type. Types of fixed width make up the packed prefix of a payload; text
and blobs have no width of their own. A field value is a value together with its type.
-/

namespace FsGateway.Wire

/-- A type of fixed width. -/
inductive FixedType
  | bool | u32 | u64 | i64
  deriving DecidableEq, Repr

/-- A type of varying length. -/
inductive VaryingType
  | text | blob
  deriving DecidableEq, Repr

/-- The type of one field. -/
inductive FieldType
  | fixed (type : FixedType)
  | varying (type : VaryingType)
  deriving DecidableEq, Repr

/-- A name with a type of one of the three kinds. -/
structure Named (α : Type) where
  name : String
  type : α
  deriving DecidableEq, Repr

/-- A field of a record. -/
abbrev Field := Named FieldType

namespace FixedType

/-- The number of bytes in the prefix. -/
def width : FixedType → Nat
  | bool => 1 | u32 => 4 | u64 => 8 | i64 => 8

/-- The values of a type. -/
def Value : FixedType → Type
  | bool => Bool | u32 => UInt32 | u64 => UInt64 | i64 => Int64

end FixedType

namespace VaryingType

/-- The values of a type. -/
def Value : VaryingType → Type
  | text => String | blob => Bytes

end VaryingType

namespace FieldType

/-- The number of bytes in the prefix, for a type of fixed width. -/
def width? : FieldType → Option Nat
  | fixed t => some t.width
  | varying _ => none

/-- Whether values have no fixed width. -/
def isVarying : FieldType → Bool
  | fixed _ => false
  | varying _ => true

/-- The values of a type. -/
def Value : FieldType → Type
  | fixed t => t.Value
  | varying t => t.Value

/-- Every type. -/
def all : List FieldType :=
  [fixed .bool, fixed .u32, fixed .u64, fixed .i64, varying .text, varying .blob]

/-- The name of a type. -/
def name : FieldType → String
  | fixed .bool => "bool" | fixed .u32 => "u32" | fixed .u64 => "u64" | fixed .i64 => "i64"
  | varying .text => "text" | varying .blob => "blob"

/-- The type with a name. -/
def ofName? (s : String) : Option FieldType := all.find? (·.name = s)

/-- How messages name a type. -/
def label : FieldType → String
  | fixed .bool => "Bool" | fixed .u32 => "U32" | fixed .u64 => "U64" | fixed .i64 => "I64"
  | varying .text => "Text" | varying .blob => "Blob"

end FieldType

/-- The value of one field. -/
inductive FieldValue
  | bool (b : Bool)
  | u32 (n : UInt32)
  | u64 (n : UInt64)
  | i64 (n : Int64)
  | text (s : String)
  | blob (b : Bytes)
  deriving DecidableEq

namespace FieldValue

/-- The type of a value. -/
def type : FieldValue → FieldType
  | bool _ => .fixed .bool | u32 _ => .fixed .u32 | u64 _ => .fixed .u64 | i64 _ => .fixed .i64
  | text _ => .varying .text | blob _ => .varying .blob

/-- A value of a known type as a field value. -/
def of : (t : FieldType) → t.Value → FieldValue
  | .fixed .bool, b => bool b
  | .fixed .u32, n => u32 n
  | .fixed .u64, n => u64 n
  | .fixed .i64, n => i64 n
  | .varying .text, s => text s
  | .varying .blob, b => blob b

/-- The value itself, if it has the given type. -/
def as? : (t : FieldType) → FieldValue → Option t.Value
  | .fixed .bool, bool b => some b
  | .fixed .u32, u32 n => some n
  | .fixed .u64, u64 n => some n
  | .fixed .i64, i64 n => some n
  | .varying .text, text s => some s
  | .varying .blob, blob b => some b
  | _, _ => none

/-- The bytes of a value: a truth value is one byte, a word is little-endian, text is UTF-8. -/
def bytes : FieldValue → Bytes
  | bool b => [if b then 1 else 0]
  | u32 n => wordBytes 4 n.toNat
  | u64 n => wordBytes 8 n.toNat
  | i64 n => wordBytes 8 n.toUInt64.toNat
  | text s => Text.encode s
  | blob b => b

/-- Whether a value is the zero or empty value of its type. -/
def isZero : FieldValue → Bool
  | bool b => !b
  | u32 n => n = 0
  | u64 n => n = 0
  | i64 n => n = 0
  | text s => s = ""
  | blob b => b = []

@[simp] theorem type_of (t : FieldType) (v : t.Value) : (of t v).type = t := by
  rcases t with t | t <;> cases t <;> rfl

@[simp] theorem as_of (t : FieldType) (v : t.Value) : (of t v).as? t = some v := by
  rcases t with t | t <;> cases t <;> rfl

end FieldValue

end FsGateway.Wire
