import FsGateway.Settings.KeyPath

/-!
# Settings in the environment

A variable whose name starts with the program's name and an underscore, in any case of letters,
sets the key that the rest of its name spells in small letters. Its text is read as a truth value,
a whole number or a floating-point number if it spells one.
-/

namespace FsGateway.Settings.Environment

open FsGateway.Numeral

/-- What the names of variables for settings start with. -/
def lead : List Char := "fusegate_".toList

/-- The small form of a letter, for letters whose small form is an ASCII letter. -/
def lower (c : Char) : Char := if c = '\u212a' then 'k' else c.toLower

/-- The key that a variable sets. -/
def key? (name : String) : Option String :=
  let cs := name.toList
  if (cs.take lead.length).map Char.toLower = lead then
    some (String.ofList ((cs.drop lead.length).map lower))
  else none

/-- The name that the variable for a key usually has. -/
def nameOf (key : String) : String := String.ofList ((lead ++ key.toList).map Char.toUpper)

/-- The value of a text. -/
def valueOf (s : String) : Value :=
  let word := s.map Char.toLower
  if word = "true" then .bool true
  else if word = "false" then .bool false
  else
    match (integer? s.toList).filter fitsInt64 with
    | some i => .int i
    | none =>
      match Binary64.ofText? s with
      | some f => .float f
      | none => .text s

/-- The keys that variables set, with their values. -/
def members (environment : List (String × String)) : List (String × Value) :=
  environment.filterMap fun v => (key? v.1).map fun k => (k, valueOf v.2)

end FsGateway.Settings.Environment
