import FsGateway.Json.Text

/-!
# JSON documents

A node keeps strings in their raw form and numbers as they are spelled. A document that breaks off
or stops being JSON still has a node: what was read up to that point, with `broken` for a value
that is none and `closed` false for a list whose end was not reached. So a reader that goes
through the node from left to right meets the faults in the order in which they stand in the text.

* `print`: the compact text of a node.
* `parse`: the node of a text, and whether the text ends with it.
-/

namespace FsGateway.Json

/-- A JSON value, or what could be read of one. -/
inductive Node
  | null
  | bool (b : Bool)
  /-- A number, as it is spelled. -/
  | number (lexeme : Bytes)
  /-- A string, in its raw form. -/
  | string (raw : Bytes)
  | array (items : List Node) (closed : Bool)
  /-- An object, with the raw forms of its member names. -/
  | object (members : List (Bytes × Node)) (closed : Bool)
  /-- No value stands here. -/
  | broken

namespace Node

/-- The bytes of a literal. -/
def literal (s : String) : Bytes := FsGateway.Text.encode s

/-- A string node of a text. -/
def ofText (s : String) : Node := .string (Text.raw s)

/-! ## Whole documents -/

mutual

/-- Whether no part of a node is missing. -/
def isWhole : Node → Bool
  | .array items closed => closed && allWhole items
  | .object members closed => closed && membersWhole members
  | .broken => false
  | _ => true

/-- Whether no part of any item is missing. -/
def allWhole : List Node → Bool
  | [] => true
  | n :: ns => n.isWhole && allWhole ns

/-- Whether no part of any member is missing. -/
def membersWhole : List (Bytes × Node) → Bool
  | [] => true
  | (_, n) :: ms => n.isWhole && membersWhole ms

end

mutual

/-- How many arrays and objects are nested in each other. -/
def depth : Node → Nat
  | .array items _ => 1 + itemsDepth items
  | .object members _ => 1 + membersDepth members
  | _ => 0

/-- The greatest depth of an item. -/
def itemsDepth : List Node → Nat
  | [] => 0
  | n :: ns => max n.depth (itemsDepth ns)

/-- The greatest depth of a member. -/
def membersDepth : List (Bytes × Node) → Nat
  | [] => 0
  | (_, n) :: ms => max n.depth (membersDepth ms)

end

/-! ## Printing -/

mutual

/-- The compact text of a node. -/
def print : Node → Bytes
  | .null => literal "null"
  | .bool true => literal "true"
  | .bool false => literal "false"
  | .number lexeme => lexeme
  | .string raw => Text.quote :: raw ++ [Text.quote]
  | .array items _ => 0x5B :: printItems items
  | .object members _ => 0x7B :: printMembers members
  | .broken => []

/-- Items with commas between them, and the closing bracket. -/
def printItems : List Node → Bytes
  | [] => [0x5D]
  | [n] => n.print ++ [0x5D]
  | n :: ns => n.print ++ 0x2C :: printItems ns

/-- Members with commas between them, and the closing brace. -/
def printMembers : List (Bytes × Node) → Bytes
  | [] => [0x7D]
  | [(name, n)] => Text.quote :: name ++ Text.quote :: 0x3A :: n.print ++ [0x7D]
  | (name, n) :: ms =>
    Text.quote :: name ++ Text.quote :: 0x3A :: n.print ++ 0x2C :: printMembers ms

end

/-! ## Parsing -/

/-- Whether a byte is space, tab, line feed or carriage return. -/
def isSpace (b : UInt8) : Bool := b = 0x20 || b = 0x09 || b = 0x0A || b = 0x0D

/-- The input from its first byte that is not space. -/
def skipSpace (b : Bytes) : Bytes := b.dropWhile isSpace

/-- Whether a byte is a decimal digit. -/
def isDigit (b : UInt8) : Bool := 0x30 ≤ b && b ≤ 0x39

/-- The digits at the start of the input, of which there must be one, and the rest. -/
def scanDigits (b : Bytes) : Option (Bytes × Bytes) :=
  let ds := b.takeWhile isDigit
  if ds.isEmpty then none else some (ds, b.dropWhile isDigit)

/-- The digits before the point: a zero is not followed by another digit. -/
def scanWhole (b : Bytes) : Option (Bytes × Bytes) :=
  match scanDigits b with
  | some (0x30 :: _ :: _, _) => none
  | r => r

/-- The part of a number after its whole digits that starts with a point, if there is one. -/
def scanFraction (b : Bytes) : Option (Bytes × Bytes) :=
  match b with
  | 0x2E :: rest => (scanDigits rest).map fun r => (0x2E :: r.1, r.2)
  | _ => some ([], b)

/-- The exponent at the end of a number, if there is one. -/
def scanExponent (b : Bytes) : Option (Bytes × Bytes) :=
  match b with
  | e :: rest =>
    if e = 0x65 ∨ e = 0x45 then
      match rest with
      | s :: rest' =>
        if s = 0x2B ∨ s = 0x2D then (scanDigits rest').map fun r => (e :: s :: r.1, r.2)
        else (scanDigits rest).map fun r => (e :: r.1, r.2)
      | [] => none
    else some ([], b)
  | [] => some ([], b)

/-- The number at the start of the input, as it is spelled, and the rest. -/
def scanNumber (b : Bytes) : Option (Bytes × Bytes) := do
  let (sign, b) := match b with
    | 0x2D :: rest => ([0x2D], rest)
    | _ => (([] : Bytes), b)
  let (whole, b) ← scanWhole b
  let (fraction, b) ← scanFraction b
  let (exponent, b) ← scanExponent b
  pure (sign ++ whole ++ fraction ++ exponent, b)

/-- The input after a literal that it starts with. -/
def dropLiteral (s : String) (b : Bytes) : Option Bytes :=
  let l := literal s
  if l.isPrefixOf b then some (b.drop l.length) else none

mutual

/-- The value at the start of the input, and what follows it unless the input breaks off. -/
def parseValue : (fuel : Nat) → Bytes → Node × Option Bytes
  | 0, _ => (.broken, none)
  | fuel + 1, b =>
    match skipSpace b with
    | [] => (.broken, none)
    | c :: rest =>
      if c = Text.quote then
        match Text.scan rest with
        | some (raw, rest) => (.string raw, some rest)
        | none => (.broken, none)
      else if c = 0x5B then
        match skipSpace rest with
        | 0x5D :: rest => (.array [] true, some rest)
        | rest =>
          let (items, after) := parseItems fuel rest
          (.array items after.isSome, after)
      else if c = 0x7B then
        match skipSpace rest with
        | 0x7D :: rest => (.object [] true, some rest)
        | rest =>
          let (members, after) := parseMembers fuel rest
          (.object members after.isSome, after)
      else if c = 0x6E then
        match dropLiteral "null" (c :: rest) with
        | some rest => (.null, some rest)
        | none => (.broken, none)
      else if c = 0x74 then
        match dropLiteral "true" (c :: rest) with
        | some rest => (.bool true, some rest)
        | none => (.broken, none)
      else if c = 0x66 then
        match dropLiteral "false" (c :: rest) with
        | some rest => (.bool false, some rest)
        | none => (.broken, none)
      else
        match scanNumber (c :: rest) with
        | some (lexeme, rest) => (.number lexeme, some rest)
        | none => (.broken, none)

/-- The items of an array up to its closing bracket. There is at least one. -/
def parseItems : (fuel : Nat) → Bytes → List Node × Option Bytes
  | 0, _ => ([], none)
  | fuel + 1, b =>
    match parseValue fuel b with
    | (n, none) => ([n], none)
    | (n, some rest) =>
      match skipSpace rest with
      | 0x5D :: rest => ([n], some rest)
      | 0x2C :: rest =>
        let (ns, after) := parseItems fuel rest
        (n :: ns, after)
      | _ => ([n], none)

/-- The members of an object up to its closing brace. There is at least one. -/
def parseMembers : (fuel : Nat) → Bytes → List (Bytes × Node) × Option Bytes
  | 0, _ => ([], none)
  | fuel + 1, b =>
    match skipSpace b with
    | 0x22 :: rest =>
      match Text.scan rest with
      | none => ([], none)
      | some (name, rest) =>
        match skipSpace rest with
        | 0x3A :: rest =>
          match parseValue fuel rest with
          | (n, none) => ([(name, n)], none)
          | (n, some rest) =>
            match skipSpace rest with
            | 0x7D :: rest => ([(name, n)], some rest)
            | 0x2C :: rest =>
              let (ms, after) := parseMembers fuel rest
              ((name, n) :: ms, after)
            | _ => ([(name, n)], none)
        | _ => ([(name, .broken)], none)
    | _ => ([], none)

end

/-- The node of a document, and whether nothing but space follows it. -/
def parse (b : Bytes) : Node × Bool :=
  match parseValue (2 * b.length + 2) b with
  | (n, none) => (n, false)
  | (n, some rest) => (n, (skipSpace rest).isEmpty)

/-- The node of a document that is complete. -/
def parseWhole (b : Bytes) : Option Node :=
  let (n, atEnd) := parse b
  if atEnd && n.isWhole then some n else none

end Node

end FsGateway.Json
