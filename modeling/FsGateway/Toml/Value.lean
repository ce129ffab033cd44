import FsGateway.Toml.Instant

/-!
# TOML values

* `scalar?`: the value that a run of letters, digits and signs spells. Truth values, whole numbers
  of 64 bits, floating-point numbers, dates and times are spelled in this way.
-/

namespace FsGateway.Toml

open FsGateway.Numeral

/-- A value. Dates and times are kept as text. -/
inductive Value
  | bool (b : Bool)
  | int (i : Int)
  | float (f : Binary64)
  | text (s : String)
  | instant (s : String)
  | array (items : List Value)
  | table (members : List (String × Value))

namespace Value

/-! ## Numbers -/

/-- Digits without the underscores that may stand between any two of them. -/
def ungroup? (radix : Nat) : List Char → Option (List Char)
  | [] => none
  | [c] => if isDigit radix c then some [c] else none
  | c :: '_' :: cs => if isDigit radix c then (ungroup? radix cs).map (c :: ·) else none
  | c :: cs => if isDigit radix c then (ungroup? radix cs).map (c :: ·) else none

/-- Decimal digits of a whole number, where a zero is not followed by another digit. -/
def whole? (cs : List Char) : Option (List Char) :=
  match ungroup? 10 cs with
  | some ('0' :: _ :: _) => none
  | r => r

/-- The whole number that a run of characters spells. -/
def wholeNumber? : List Char → Option Int
  | '0' :: 'x' :: cs => ((ungroup? 16 cs).bind (natural? 16)).map Int.ofNat
  | '0' :: 'o' :: cs => ((ungroup? 8 cs).bind (natural? 8)).map Int.ofNat
  | '0' :: 'b' :: cs => ((ungroup? 2 cs).bind (natural? 2)).map Int.ofNat
  | cs =>
    let (negative, ds) := splitSign cs
    ((whole? ds).bind (natural? 10)).map fun n => if negative then -(n : Int) else n

/-- A part of a number that may be missing, without its underscores. -/
def ungroupOptional? : Option (List Char) → Option (Option (List Char))
  | none => some none
  | some cs => (ungroup? 10 cs).map some

/-- The finite number with a point or an exponent that a run of characters without a sign
spells. -/
def finite? (negative : Bool) (cs : List Char) : Option Binary64 := do
  let d ← Decimal.ofChars? (fun c => isDigit 10 c || c = '_') cs
  let whole ← whole? d.whole
  let fraction ← ungroupOptional? d.fraction
  let exponent ← ungroupOptional? (d.exponent.map (·.2))
  if fraction.isNone && exponent.isNone then none
  else
    let sign := (d.exponent.map (·.1)).getD false
    match Binary64.ofDecimal? negative ⟨whole, fraction, exponent.map fun ds => (sign, ds)⟩ with
    | some (.infinite _) => none
    | r => r

/-- The floating-point number that a run of characters spells. -/
def float? (cs : List Char) : Option Binary64 :=
  let (negative, cs) := splitSign cs
  if cs = ['i', 'n', 'f'] then some (.infinite negative)
  else if cs = ['n', 'a', 'n'] then some .nan
  else finite? negative cs

/-! ## Scalars -/

/-- Whether a character can stand in a scalar that is no string. -/
def isScalarChar (c : Char) : Bool :=
  c.isAlphanum || c = '+' || c = '-' || c = '.' || c = '_' || c = ':'

/-- The value of a scalar that is no string. -/
def scalar? (cs : List Char) : Option Value :=
  if cs = ['t', 'r', 'u', 'e'] then some (.bool true)
  else if cs = ['f', 'a', 'l', 's', 'e'] then some (.bool false)
  else
    match wholeNumber? cs with
    | some i => if fitsInt64 i then some (.int i) else none
    | none =>
      match float? cs with
      | some f => some (.float f)
      | none => (Instant.ofChars? cs).map .instant

/-- Whether a run of characters after a blank goes on with the time of a date before it. -/
def continuesDate (date rest : List Char) : Bool :=
  match rest with
  | ' ' :: a :: b :: ':' :: _ =>
    (Instant.date? date).any (·.2.isEmpty) && isDigit 10 a && isDigit 10 b
  | _ => false

/-- The scalar at the start of the input, and what follows it. A date and its time may be divided
by a space. -/
def readScalar? (cs : List Char) : Option (Value × List Char) :=
  let run := cs.takeWhile isScalarChar
  let rest := cs.dropWhile isScalarChar
  if continuesDate run rest then
    let time := rest.tail.takeWhile isScalarChar
    (scalar? (run ++ ' ' :: time)).map fun v => (v, rest.tail.dropWhile isScalarChar)
  else (scalar? run).map fun v => (v, rest)

end Value

end FsGateway.Toml
