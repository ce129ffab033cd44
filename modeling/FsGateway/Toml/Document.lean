import FsGateway.Toml.Table
import FsGateway.Toml.Text

/-!
# TOML documents

A document is a list of statements, each on a line of its own: headers, which say in which table
the following keys stand, and keys with their values.

* `Value.read?`: the value at the start of an input.
* `Document.parse?`: the members of the outermost table.
-/

namespace FsGateway.Toml

open FsGateway.Toml.Text (isBlank isControl dropNewline?)

/-! ## Blanks and line ends -/

/-- The input without blanks at its start. -/
def skipBlanks (cs : List Char) : List Char := cs.dropWhile isBlank

/-- The input without blanks, line breaks and comments at its start, where `inComment` says that
it starts within a comment. -/
def skipLines? : (inComment : Bool) → List Char → Option (List Char)
  | _, [] => some []
  | inComment, c :: cs =>
    if c = '\n' then skipLines? false cs
    else if c = '\r' then if cs.head? = some '\n' then skipLines? false cs else none
    else if inComment then if isControl c then none else skipLines? true cs
    else if isBlank c then skipLines? false cs
    else if c = '#' then skipLines? true cs
    else some (c :: cs)

/-- The input after the end of a line, which may have blanks and a comment before it. -/
def endLine? : (inComment : Bool) → List Char → Option (List Char)
  | _, [] => some []
  | inComment, c :: cs =>
    if c = '\n' then some cs
    else if c = '\r' then if cs.head? = some '\n' then some cs.tail else none
    else if inComment then if isControl c then none else endLine? true cs
    else if isBlank c then endLine? false cs
    else if c = '#' then endLine? true cs
    else none

/-! ## Keys -/

/-- Whether a character can stand in a key without quotation marks. -/
def isBareChar (c : Char) : Bool := c.isAlphanum || c = '_' || c = '-'

/-- One key at the start of the input. -/
def readKey? (cs : List Char) : Option (String × List Char) :=
  let bare := cs.takeWhile isBareChar
  if bare = [] then (Text.readLine? cs).map fun r => (String.ofList r.1, r.2)
  else some (String.ofList bare, cs.dropWhile isBareChar)

/-- How many keys may be joined by points. -/
def maxKeys : Nat := 80

/-- Up to `most` keys at the start of the input with points between them, and what follows them
and the blanks behind them. -/
def readUpTo? : (most : Nat) → List Char → Option (List String × List Char)
  | 0, _ => none
  | most + 1, cs =>
    match readKey? (skipBlanks cs) with
    | none => none
    | some (k, rest) =>
      match skipBlanks rest with
      | '.' :: rest => (readUpTo? most rest).map fun r => (k :: r.1, r.2)
      | rest => some ([k], rest)

/-- The keys at the start of the input, and what follows them and the blanks behind them. -/
def readKeys? (cs : List Char) : Option (List String × List Char) := readUpTo? maxKeys cs

/-- The keys before an equals sign, and what follows that and the blanks behind it. -/
def readAssigned? (cs : List Char) : Option (List String × List Char) :=
  match readKeys? cs with
  | some (keys, '=' :: rest) => some (keys, skipBlanks rest)
  | _ => none

/-! ## Values -/

namespace Value

mutual

/-- The value at the start of the input, and what follows it. Arrays and tables may be nested
`room` deep. -/
def readWithin? : (fuel room : Nat) → List Char → Option (Value × List Char)
  | 0, _, _ => none
  | fuel + 1, room, cs =>
    match cs, room with
    | '"' :: _, _ | '\'' :: _, _ => (Text.read? cs).map fun r => (.text (String.ofList r.1), r.2)
    | '[' :: _, 0 | '\x7b' :: _, 0 => none
    | '[' :: rest, room + 1 => (readItems? fuel room rest).map fun r => (.array r.1, r.2)
    | '\x7b' :: rest, room + 1 =>
      (readMembers? fuel room [] rest).map fun r => (.table (valuesOf r.1), r.2)
    | cs, _ => readScalar? cs

/-- The items of an array up to its closing bracket. A comma may follow the last one. -/
def readItems? : (fuel room : Nat) → List Char → Option (List Value × List Char)
  | 0, _, _ => none
  | fuel + 1, room, cs =>
    match skipLines? false cs with
    | some (']' :: rest) => some ([], rest)
    | some rest =>
      match readWithin? fuel room rest with
      | none => none
      | some (v, rest) =>
        match skipLines? false rest with
        | some (',' :: rest) => (readItems? fuel room rest).map fun r => (v :: r.1, r.2)
        | some (']' :: rest) => some ([v], rest)
        | _ => none
    | none => none

/-- The members of a table up to its closing brace, after others. A comma may follow the last
one. -/
def readMembers? : (fuel room : Nat) → Members → List Char → Option (Members × List Char)
  | 0, _, _, _ => none
  | fuel + 1, room, ms, cs =>
    match skipLines? false cs with
    | some ('\x7d' :: rest) => some (ms, rest)
    | some rest =>
      match readAssigned? rest with
      | none => none
      | some (keys, rest) =>
        match readWithin? fuel room rest with
        | none => none
        | some (v, rest) =>
          match ms.assign? keys v, skipLines? false rest with
          | some ms, some (',' :: rest) => readMembers? fuel room ms rest
          | some ms, some ('\x7d' :: rest) => some (ms, rest)
          | _, _ => none
    | none => none

end

/-- How deep arrays and tables may be nested in each other. -/
def maxDepth : Nat := 80

/-- The value at the start of the input, and what follows it. -/
def read? (cs : List Char) : Option (Value × List Char) :=
  readWithin? (2 * cs.length + 2) maxDepth cs

end Value

/-! ## Statements -/

/-- What was read of a document: its tables, and the path of the table that keys stand in. -/
structure Document where
  members : Members
  current : List String

namespace Document

/-- A document before its first statement. -/
def empty : Document := ⟨[], []⟩

/-- A header: `edit?` is what it does to the table that holds the last key. -/
def withHeader? (edit? : String → Members → Option Members) (keys : List String)
    (d : Document) : Option Document :=
  match keys.getLast? with
  | none => none
  | some k => (d.members.within? keys.dropLast (edit? k)).map fun ms => ⟨ms, keys⟩

/-- A key with its value. -/
def withValue? (keys : List String) (v : Value) (d : Document) : Option Document :=
  (d.members.within? d.current (·.assign? keys v)).map fun ms => ⟨ms, d.current⟩

/-- The document with the statement at the start of the input, and what follows its line. -/
def statement? (d : Document) (cs : List Char) : Option (Document × List Char) :=
  match cs with
  | '[' :: '[' :: cs =>
    match readKeys? cs with
    | some (keys, ']' :: ']' :: rest) => do
      pure (← d.withHeader? Members.openElement? keys, ← endLine? false rest)
    | _ => none
  | '[' :: cs =>
    match readKeys? cs with
    | some (keys, ']' :: rest) => do
      pure (← d.withHeader? Members.openTable? keys, ← endLine? false rest)
    | _ => none
  | cs => do
    let (keys, rest) ← readAssigned? cs
    let (v, rest) ← Value.read? rest
    pure (← d.withValue? keys v, ← endLine? false rest)

/-- The document with all statements of the input. -/
def statements? : (fuel : Nat) → Document → List Char → Option Document
  | 0, _, _ => none
  | fuel + 1, d, cs =>
    match skipLines? false cs with
    | none => none
    | some [] => some d
    | some cs =>
      match d.statement? cs with
      | none => none
      | some (d, rest) => statements? fuel d rest

/-- The input without the mark of its byte order. -/
def dropMark : List Char → List Char
  | '\ufeff' :: cs => cs
  | cs => cs

/-- The members of the outermost table of a text. -/
def parse? (s : String) : Option (List (String × Value)) :=
  let cs := dropMark s.toList
  (statements? (cs.length + 1) empty cs).map fun d => valuesOf d.members

end Document

end FsGateway.Toml
