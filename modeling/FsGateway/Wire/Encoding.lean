import FsGateway.Json.Document
import FsGateway.Wire.Registry

/-!
# Encodings

Payloads travel in one of two encodings, chosen once for a connection: JSON records, or the raw
encoding. A record without fields has an empty payload in both, and whatever arrives for it is
accepted.

* `encode`, `decode`: the payload of a record and back.
* `encodeError`, `decodeError`: the body of an answer that reports an error.
-/

namespace FsGateway.Wire

/-- The encoding of a connection. -/
inductive Encoding
  /-- JSON records. -/
  | generic
  /-- The packed prefix and the fields after it. -/
  | raw
  deriving DecidableEq, Repr

namespace Encoding

instance : Inhabited Encoding := ⟨generic⟩

/-- The name of an encoding. -/
def name : Encoding → String
  | generic => "generic"
  | raw => "raw"

/-- The media type of payloads. -/
def contentType : Encoding → String
  | generic => "application/json"
  | raw => "application/fuse"

/-- The encoding whose own name is given exactly. -/
def ofName? (s : String) : Option Encoding :=
  if s = "generic" then some generic else if s = "raw" then some raw else none

/-- The encoding that a user names, in any case of letters; each has a second name. -/
def ofUserText? (s : String) : Option Encoding :=
  let s := s.map Char.toLower
  if s = "generic" ∨ s = "json" then some generic
  else if s = "raw" ∨ s = "fuse" then some raw
  else none

/-- The wording for a text that names no encoding. -/
def refusal (s : String) : String :=
  "Invalid wire encoding: " ++ s ++ ". Use 'generic' or 'raw'"

/-! ## Records -/

/-- The payload of field values under a layout. -/
def encode {R : Type} [Record R] (e : Encoding) (l : Layout) (r : R) : Except CodecFault Bytes :=
  if l.isEmpty then .ok []
  else
    match e with
    | generic => .ok (Record.toNode r).print
    | raw => Raw.encode l (Record.flatten r)

/-- The fault of a payload that is not the expected JSON. -/
def structuredFault (f : Json.Fault) : CodecFault := .structured f.message

/-- The record of a payload. -/
def decode {R : Type} [Record R] (e : Encoding) (l : Layout) (body : Bytes) :
    Except CodecFault R :=
  if l.isEmpty then (Record.unflatten []).map (·.1)
  else
    match e with
    | generic => (Json.readDocument Record.ofNode body).mapError structuredFault
    | raw => do
      let (r, rest) ← Record.unflatten (← Raw.decode l body)
      if rest.length ≠ 0 then .error (.trailingBytes rest.length) else pure r

/-! ## Error bodies -/

/-- What the body of an answer in JSON says about an error. -/
structure ErrorBody where
  errno : Int32
  message : String
  deriving DecidableEq

namespace ErrorBody

/-- The fields of an error body. The message may be left out. -/
def schema : Json.Schema Json.DocumentType :=
  .field "errno" .i32 none <| .field "message" .text (some ("" : String)) .done

/-- An error body as a JSON object. -/
def toNode (b : ErrorBody) : Json.Node := schema.toNode (b.errno, b.message, ())

/-- The error body of a JSON node. -/
def ofNode (n : Json.Node) : Except Json.Fault ErrorBody :=
  (schema.ofNode n).map fun (errno, message, ()) => ⟨errno, message⟩

end ErrorBody

/-- The body that reports an error number with a message. The raw encoding has no message. -/
def encodeError (e : Encoding) (errno : Int32) (message : String) : Bytes :=
  match e with
  | raw => wordBytes 4 errno.toUInt32.toNat
  | generic => (ErrorBody.toNode ⟨errno, message⟩).print

/-- The error number and the message, if any, in the body of an answer. -/
def decodeError (e : Encoding) (body : Bytes) : Option (Int32 × Option String) :=
  match e with
  | raw => if body.length = 4 then some (signed32 (wordValue body), none) else none
  | generic =>
    match Json.readDocument ErrorBody.ofNode body with
    | .ok b => some (b.errno, if b.message = "" then none else some b.message)
    | .error _ => none

end Encoding

end FsGateway.Wire
