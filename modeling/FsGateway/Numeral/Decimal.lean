import FsGateway.Numeral.Binary64

/-!
# Numbers as text

* `natural?`, `integer?`: whole numbers, the second with an optional sign.
* `Decimal.ofChars?`: a number without its sign, cut at its point and its exponent.
* `Binary64.ofText?`: a floating-point number as a user writes one.
-/

namespace FsGateway.Numeral

/-- The value of a digit below `radix`, where letters of either case follow the decimal digits. -/
def digit? (radix : Nat) (c : Char) : Option Nat :=
  let d :=
    if '0' ≤ c ∧ c ≤ '9' then c.toNat - 0x30
    else if 'a' ≤ c ∧ c ≤ 'z' then c.toNat - 0x61 + 10
    else if 'A' ≤ c ∧ c ≤ 'Z' then c.toNat - 0x41 + 10
    else radix
  if d < radix then some d else none

/-- Whether a character is a digit below `radix`. -/
def isDigit (radix : Nat) (c : Char) : Bool := (digit? radix c).isSome

/-- The number that digits spell. -/
def digitsValue (radix : Nat) (cs : List Char) : Nat :=
  cs.foldl (fun n c => radix * n + (digit? radix c).getD 0) 0

/-- The number that digits spell, of which there must be one. -/
def natural? (radix : Nat) (cs : List Char) : Option Nat :=
  if cs ≠ [] ∧ cs.all (isDigit radix) then some (digitsValue radix cs) else none

/-- Whether a text starts with a minus sign, and what follows its sign. -/
def splitSign : List Char → Bool × List Char
  | '-' :: cs => (true, cs)
  | '+' :: cs => (false, cs)
  | cs => (false, cs)

/-- The number that decimal digits spell behind an optional sign. -/
def integer? (cs : List Char) : Option Int :=
  let (negative, ds) := splitSign cs
  (natural? 10 ds).map fun n => if negative then -(n : Int) else n

/-- Whether a whole number fits in 64 bits with a sign. -/
def fitsInt64 (i : Int) : Bool := Int64.minValue.toInt ≤ i && i ≤ Int64.maxValue.toInt

/-! ## Points and exponents -/

/-- The parts of a decimal number without a sign. -/
structure Decimal where
  whole : List Char
  /-- What follows the point, if there is one. -/
  fraction : Option (List Char)
  /-- What follows the letter of the exponent and its sign, with whether that is a minus. -/
  exponent : Option (Bool × List Char)
  deriving DecidableEq, Repr

namespace Decimal

/-- The exponent at the end of a number, if there is one. -/
def exponent? : List Char → Option (Option (Bool × List Char))
  | [] => some none
  | e :: cs => if e = 'e' ∨ e = 'E' then some (some (splitSign cs)) else none

/-- The parts of a number in which `isPart` says what counts as a digit. -/
def ofChars? (isPart : Char → Bool) (cs : List Char) : Option Decimal :=
  match cs.dropWhile isPart with
  | '.' :: rest =>
    (exponent? (rest.dropWhile isPart)).map fun e =>
      ⟨cs.takeWhile isPart, some (rest.takeWhile isPart), e⟩
  | rest => (exponent? rest).map fun e => ⟨cs.takeWhile isPart, none, e⟩

/-- The exponent as a number. There must be a digit if there is an exponent. -/
def exponentValue? (d : Decimal) : Option Int :=
  match d.exponent with
  | none => some 0
  | some (negative, ds) => (natural? 10 ds).map fun n => if negative then -(n : Int) else n

end Decimal

namespace Binary64

/-- The number nearest to `digits * 10 ^ exponent`. Whatever is above `10 ^ 399` is too large for
a number, and whatever is below `10 ^ (-400)` is too small. -/
def ofScientific (negative : Bool) (digits : Nat) (exponent : Int) : Binary64 :=
  let size := exponent + digitCount digits
  if digits = 0 ∨ size < -400 then finite negative 0 minExponent
  else if 400 < size then infinite negative
  else ofDecimal negative digits exponent

/-- The number of the parts of a decimal text, if they hold digits where they must. -/
def ofDecimal? (negative : Bool) (d : Decimal) : Option Binary64 := do
  let fraction := d.fraction.getD []
  let digits ← natural? 10 (d.whole ++ fraction)
  let exponent ← d.exponentValue?
  pure (ofScientific negative digits (exponent - fraction.length))

/-- The floating-point number that a user writes. There may be no digit on one side of the
point. -/
def ofText? (s : String) : Option Binary64 :=
  let (negative, cs) := splitSign s.toList
  let word := String.ofList (cs.map Char.toLower)
  if word = "inf" ∨ word = "infinity" then some (infinite negative)
  else if word = "nan" then some nan
  else (Decimal.ofChars? (isDigit 10) cs).bind (ofDecimal? negative)

end Binary64

end FsGateway.Numeral
