import FsGateway.Json.Number
import FsGateway.Toml.Document

/-!
# Values of settings

Settings come from files of different formats and from the environment. All of them are read as
the same kind of value, and are laid over each other before the settings are taken from them.

* `assign`: a value laid over another. Tables are merged, and all else is replaced.
* `text?`, `natural?`: the text and the number that a value stands for.
* `ofJson?`, `ofToml`: the values of files.
-/

namespace FsGateway.Settings

open FsGateway.Json (Node)
open FsGateway.Numeral

/-- A value from which a setting is taken. -/
inductive Value
  | nil
  | bool (b : Bool)
  | int (i : Int)
  | float (f : Binary64)
  | text (s : String)
  /-- A list. No setting is one, so nothing is said of its items. -/
  | list
  | table (members : List (String × Value))

namespace Value

/-! ## Tables -/

/-- The members of a table. All else has none. -/
def members : Value → List (String × Value)
  | .table ms => ms
  | _ => []

/-- What stands under a key. -/
def get? (v : Value) (k : String) : Option Value := v.members.lookup k

/-- Members in which the value under a key is changed. A key without a value counts as having
nil. -/
def editMember (k : String) (f : Value → Value) : List (String × Value) → List (String × Value)
  | [] => [(k, f .nil)]
  | (k', v) :: ms => if k' = k then (k', f v) :: ms else (k', v) :: editMember k f ms

/-- A value in which what stands under a key is changed. What is no table becomes one. -/
def edit (k : String) (f : Value → Value) (v : Value) : Value := .table (editMember k f v.members)

/-- A value as one that members can be added to. -/
def opened : Value → Value
  | .nil => .table []
  | v => v

mutual

/-- A value laid over another. -/
def assign : (new old : Value) → Value
  | .table ms, old => assignMembers ms old.opened
  | v, _ => v

/-- Members laid over a value one after another. -/
def assignMembers : List (String × Value) → Value → Value
  | [], old => old
  | (k, v) :: ms, old => assignMembers ms (old.edit k v.assign)

end

/-! ## Texts and numbers -/

/-- The text that a value stands for. -/
def text? : Value → Option String
  | .text s => some s
  | .bool b => some (if b then "true" else "false")
  | .int i => some (toString i)
  | .float f => some f.positional
  | _ => none

/-- The number of a word for on or off, in any case of letters. -/
def switch? (s : String) : Option Nat :=
  let s := s.map Char.toLower
  if s = "true" ∨ s = "on" ∨ s = "yes" then some 1
  else if s = "false" ∨ s = "off" ∨ s = "no" then some 0
  else none

/-- The number of 64 bits that a text spells, which may start with a plus sign. -/
def unsigned? (s : String) : Option UInt64 :=
  let ds := match s.toList with
    | '+' :: cs => cs
    | cs => cs
  (natural? 10 ds).bind fun n => if n < UInt64.size then some (UInt64.ofNat n) else none

/-- The number of 64 bits that a value stands for. -/
def natural? : Value → Option UInt64
  | .int i => if 0 ≤ i then some (UInt64.ofNat i.toNat) else none
  | .text s =>
    match switch? s with
    | some n => some (UInt64.ofNat n)
    | none => unsigned? s
  | .bool b => some (if b then 1 else 0)
  | .float f => some (UInt64.ofNat (f.toNatClamped (UInt64.size - 1)))
  | _ => none

/-! ## Files -/

/-- Whether a whole number fits in 64 bits, with a sign or without one. -/
def fitsWord (i : Int) : Bool := Int64.minValue.toInt ≤ i && i < UInt64.size

/-- The value of a number, unless it is out of range. Whole numbers that do not fit in 64 bits are
floating-point numbers. -/
def ofLexeme? (lexeme : Bytes) : Option Value :=
  match Json.Number.integer? lexeme with
  | some i => if fitsWord i then some (.int i) else (Json.Number.float? lexeme).map .float
  | none => (Json.Number.float? lexeme).map .float

mutual

/-- The value of a node, if it has one. -/
def ofNode? : Node → Option Value
  | .null => some .nil
  | .bool b => some (.bool b)
  | .number lexeme => ofLexeme? lexeme
  | .string raw => (Json.Text.value? raw).map .text
  | .array items _ => if areItems items then some .list else none
  | .object ms _ => (ofNodes? ms).map .table
  | .broken => none

/-- Whether all items have values. -/
def areItems : List Node → Bool
  | [] => true
  | n :: ns => (ofNode? n).isSome && areItems ns

/-- The values of members. Of members with the same name the last one counts. -/
def ofNodes? : List (Bytes × Node) → Option (List (String × Value))
  | [] => some []
  | (raw, n) :: ms =>
    match Json.Text.value? raw, ofNode? n, ofNodes? ms with
    | some k, some v, some rest =>
      some (if (rest.lookup k).isSome then rest else (k, v) :: rest)
    | _, _, _ => none

end

/-- How deep a document may be nested. -/
def depthLimit : Nat := 128

/-- The value of a JSON document. -/
def ofJson? (s : String) : Option Value :=
  (Node.parseWhole (FsGateway.Text.encode s)).bind fun n =>
    if n.depth < depthLimit then ofNode? n else none

mutual

/-- The value of a value of a TOML document. -/
def ofToml : Toml.Value → Value
  | .bool b => .bool b
  | .int i => .int i
  | .float f => .float f
  | .text s | .instant s => .text s
  | .array _ => .list
  | .table ms => .table (ofTomlMembers ms)

/-- The values of members. -/
def ofTomlMembers : List (String × Toml.Value) → List (String × Value)
  | [] => []
  | (k, v) :: ms => (k, ofToml v) :: ofTomlMembers ms

end

end Value

end FsGateway.Settings
