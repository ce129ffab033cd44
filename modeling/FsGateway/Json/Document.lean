import FsGateway.Json.Schema

/-!
# Scalars of documents

Records that are written as JSON only, such as mount descriptors and error bodies, are made of
text and of signed integers of 32 bits.
-/

namespace FsGateway.Json

/-- A scalar of a document. -/
inductive DocumentType
  | text | i32
  deriving DecidableEq, Repr

namespace DocumentType

/-- The values of a type. -/
def Value : DocumentType → Type
  | text => String | i32 => Int32

/-- The form in which a value is written. -/
def toNode : (t : DocumentType) → t.Value → Node
  | text, s => Node.ofText s
  | i32, n => .number (Number.intLexeme (Int32.toInt n))

/-- The value of a node. -/
def ofNode : (t : DocumentType) → Node → Except Fault t.Value
  | text, n => readText n
  | i32, n => (readInt Int32.minValue.toInt Int32.maxValue.toInt n).map Int32.ofInt

end DocumentType

instance : Scalars DocumentType where
  Value := DocumentType.Value
  toNode := DocumentType.toNode
  ofNode := DocumentType.ofNode

end FsGateway.Json
