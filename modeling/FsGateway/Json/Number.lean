import FsGateway.Json.Node
import FsGateway.Numeral.Binary64

/-!
# JSON numbers

A number spelled without fraction and exponent is an integer, except that minus zero is none.
Every other number is a floating-point number. It is computed from the leading digits that fit in
64 bits and a power of ten with one rounding each, and is out of range when that overflows.
-/

namespace FsGateway.Json.Number

open FsGateway.Numeral

/-- The value of a decimal digit. -/
def digit (b : UInt8) : Nat := b.toNat - 0x30

/-- The number spelled by decimal digits. -/
def digitsValue (ds : Bytes) : Nat := ds.foldl (fun n d => 10 * n + digit d) 0

/-- The parts of a number. -/
structure Parts where
  negative : Bool
  whole : Bytes
  /-- The digits after the point, empty without one. -/
  fraction : Bytes
  /-- The sign and the digits of the exponent. -/
  exponent : Option (Bool × Bytes)

/-- The exponent at the end of a number. -/
def exponentPart : Bytes → Option (Bool × Bytes)
  | _ :: 0x2B :: ds => some (false, ds)
  | _ :: 0x2D :: ds => some (true, ds)
  | _ :: ds => some (false, ds)
  | [] => none

/-- The parts of a spelled number. -/
def parts (lexeme : Bytes) : Parts :=
  let (negative, b) := match lexeme with
    | 0x2D :: b => (true, b)
    | b => (false, b)
  let whole := b.takeWhile Node.isDigit
  match b.dropWhile Node.isDigit with
  | 0x2E :: rest =>
    ⟨negative, whole, rest.takeWhile Node.isDigit, exponentPart (rest.dropWhile Node.isDigit)⟩
  | rest => ⟨negative, whole, [], exponentPart rest⟩

/-! ## Integers -/

/-- The integer that a lexeme spells. -/
def integer? (lexeme : Bytes) : Option Int :=
  match lexeme with
  | 0x2D :: ds =>
    if ds.all Node.isDigit && digitsValue ds ≠ 0 then some (-(digitsValue ds : Int)) else none
  | ds => if ds.all Node.isDigit then some (digitsValue ds) else none

/-- The decimal digits of a natural number. -/
def natLexeme (n : Nat) : Bytes := (Nat.toDigits 10 n).map fun c => UInt8.ofNat c.toNat

/-- The spelling of an integer. -/
def intLexeme (i : Int) : Bytes :=
  match i with
  | .ofNat n => natLexeme n
  | .negSucc n => 0x2D :: natLexeme (n + 1)

/-! ## Floating-point numbers -/

/-- The greatest significand. -/
def maxSignificand : Nat := UInt64.size - 1

/-- The significand of the whole digits with the number of digits left out at the end. -/
def wholeSignificand : Nat → Bytes → Nat × Nat
  | sig, [] => (sig, 0)
  | sig, d :: ds =>
    if maxSignificand < 10 * sig + digit d then (sig, (d :: ds).length)
    else wholeSignificand (10 * sig + digit d) ds

/-- The significand continued with the digits after the point, and how many of them went in. -/
def fractionSignificand : Nat → Bytes → Nat × Nat
  | sig, [] => (sig, 0)
  | sig, d :: ds =>
    if maxSignificand < 10 * sig + digit d then (sig, 0)
    else
      let (sig, n) := fractionSignificand (10 * sig + digit d) ds
      (sig, n + 1)

/-- The power of ten as a floating-point number. -/
def powerOfTen (n : Nat) : Binary64 := Binary64.ofDecimal false 1 n

/-- A number times a negative power of ten, in steps of at most 308. -/
def scaleDown : (steps : Nat) → Binary64 → Nat → Binary64
  | 0, f, _ => f
  | steps + 1, f, n =>
    if n ≤ 308 then f.div (powerOfTen n)
    else if f.isZero then f
    else scaleDown steps (f.div (powerOfTen 308)) (n - 308)

/-- A significand times a power of ten, unless that is out of range. -/
def scale? (significand : Nat) (exponent : Int) : Option Binary64 :=
  let f := Binary64.ofRatio false significand 1
  if 0 ≤ exponent then
    if exponent ≤ 308 then
      match f.mul (powerOfTen exponent.toNat) with
      | .infinite _ => none
      | r => some r
    else if f.isZero then some f else none
  else some (scaleDown 4 f (-exponent).toNat)

/-- The greatest exponent that is computed with. -/
def maxExponent : Nat := 0x7FFFFFFF

/-- The floating-point number that a lexeme spells, unless it is out of range. -/
def float? (lexeme : Bytes) : Option Binary64 :=
  let p := parts lexeme
  let (sig, dropped) := wholeSignificand 0 p.whole
  let (sig, taken) := fractionSignificand sig p.fraction
  let start : Int := (dropped : Int) - taken
  let magnitude := match p.exponent with
    | none => scale? sig start
    | some (negative, ds) =>
      let e := digitsValue ds
      if maxExponent < e then
        if sig ≠ 0 ∧ negative = false then none else some (Binary64.ofRatio false 0 1)
      else scale? sig (if negative then start - e else start + e)
  magnitude.map (·.withSign p.negative)

/-- Whether a number is out of range. No integer of 64 bits is. -/
def isOutOfRange (lexeme : Bytes) : Bool := (float? lexeme).isNone

end FsGateway.Json.Number
