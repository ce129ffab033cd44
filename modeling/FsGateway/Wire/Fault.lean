import FsGateway.Wire.Escape
import FsGateway.Wire.Field

/-!
# Why a payload cannot be encoded or decoded
-/

namespace FsGateway.Wire

/-- Why a payload cannot be encoded or decoded. -/
inductive CodecFault
  | shortRead (expected actual : Nat)
  | unterminated (field : String)
  | invalidEscape (field : String) (offset : Nat)
  | trailingBytes (count : Nat)
  | invalidUtf8 (field : String)
  | fieldMismatch (field : String) (expected found : FieldType)
  | missingField (field : String)
  | structured (reason : String)
  deriving DecidableEq, Repr

namespace CodecFault

/-- The fault of a field whose escaped form cannot be read. -/
def ofEscape (field : String) : Escape.Fault → CodecFault
  | .unterminated => unterminated field
  | .invalid offset => invalidEscape field offset

/-- The wording of a fault. -/
def message : CodecFault → String
  | shortRead expected actual =>
    "short payload: need at least " ++ toString expected ++ " bytes, got " ++ toString actual
  | unterminated field => "field `" ++ field ++ "` is not terminated by a newline"
  | invalidEscape field offset =>
    "field `" ++ field ++ "` contains an invalid escape sequence at byte " ++ toString offset
  | trailingBytes count => toString count ++ " unexpected bytes after the last field"
  | invalidUtf8 field => "text field `" ++ field ++ "` is not valid UTF-8"
  | fieldMismatch field expected found =>
    "field `" ++ field ++ "` expected " ++ expected.label ++ " but the record produced "
      ++ found.label
  | missingField field => "record ended before field `" ++ field ++ "`"
  | structured reason => "structured payload error: " ++ reason

end CodecFault

end FsGateway.Wire
