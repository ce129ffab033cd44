import FsGateway.Wire.Fault
import FsGateway.Wire.Layout

/-!
# The raw encoding

A payload is the packed prefix of the fields of fixed width, followed by the fields of varying
length: one alone takes the rest of the payload, several are escaped and terminated each.

`encode` and `decode` are driven by a layout and work on field values.
-/

namespace FsGateway.Wire.Raw

/-! ## Encoding -/

/-- The first fault of values against the fields they are meant for. -/
def checkEach : List Field → List FieldValue → Except CodecFault Unit
  | f :: fields, v :: values =>
    if f.type = v.type then checkEach fields values
    else .error (.fieldMismatch f.name f.type v.type)
  | _, _ => .ok ()

/-- Values must be as many as the fields and have their types. Too few are reported before a
wrong type, and a wrong type before too many. -/
def checkTypes (fields : List Field) (values : List FieldValue) : Except CodecFault Unit :=
  match fields[values.length]? with
  | some f => .error (.missingField f.name)
  | none => do
    checkEach fields values
    if values.length > fields.length then
      .error (.trailingBytes (values.length - fields.length))

/-- The bytes of the fields of varying length. -/
def frame (shape : Shape) (values : List FieldValue) : Bytes :=
  match shape with
  | .delimited => values.flatMap fun v => Escape.write v.bytes
  | _ => values.flatMap (·.bytes)

/-- The payload of a list of field values. -/
def encode (l : Layout) (values : List FieldValue) : Except CodecFault Bytes := do
  checkTypes l.fields values
  let n := l.head.length
  pure ((values.take n).flatMap (·.bytes) ++ frame l.shape (values.drop n))

/-! ## Decoding -/

/-- The value of a type of fixed width whose bytes are `b`. Every nonzero byte is true. -/
def fixedValue : FixedType → Bytes → FieldValue
  | .bool, b => .bool (wordValue b ≠ 0)
  | .u32, b => .u32 (UInt32.ofNat (wordValue b))
  | .u64, b => .u64 (UInt64.ofNat (wordValue b))
  | .i64, b => .i64 (signed64 (wordValue b))

/-- The values of a packed prefix. -/
def decodeHead : List (Named FixedType) → Bytes → List FieldValue
  | [], _ => []
  | f :: fields, b => fixedValue f.type (b.take f.type.width) :: decodeHead fields (b.drop f.type.width)

/-- The value of a field of varying length whose bytes are `b`. -/
def varyingValue (f : Named VaryingType) (b : Bytes) : Except CodecFault FieldValue :=
  match f.type with
  | .blob => .ok (.blob b)
  | .text =>
    match Text.decode? b with
    | some s => .ok (.text s)
    | none => .error (.invalidUtf8 f.name)

/-- The values of escaped fields, one after another, and what follows them. -/
def decodeDelimited : List (Named VaryingType) → Bytes → Except CodecFault (List FieldValue × Bytes)
  | [], b => .ok ([], b)
  | f :: fields, b => do
    let (value, rest) ← (Escape.read b).mapError (CodecFault.ofEscape f.name)
    let v ← varyingValue f value
    let (vs, rest) ← decodeDelimited fields rest
    pure (v :: vs, rest)

/-- The values of the fields of varying length. Bytes after a prefix that has none are ignored;
bytes after the last escaped field are not. -/
def decodeTail : List (Named VaryingType) → Bytes → Except CodecFault (List FieldValue)
  | [], _ => .ok []
  | [f], b => do pure [← varyingValue f b]
  | fields, b => do
    let (vs, rest) ← decodeDelimited fields b
    if rest.length ≠ 0 then .error (.trailingBytes rest.length) else pure vs

/-- The field values of a payload. -/
def decode (l : Layout) (body : Bytes) : Except CodecFault (List FieldValue) :=
  if body.length < l.prefixLength then .error (.shortRead l.prefixLength body.length)
  else do
    let tail ← decodeTail l.tail (body.drop l.prefixLength)
    pure (decodeHead l.head body ++ tail)

end FsGateway.Wire.Raw
