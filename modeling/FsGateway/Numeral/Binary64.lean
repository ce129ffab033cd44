/-!
# Binary floating-point numbers of 64 bits

A finite number is a significand times a power of two. Every operation is exact arithmetic on
natural numbers followed by one rounding to the nearest number, where a tie goes to the even
significand.

* `ofRatio`: the number nearest to a quotient.
* `shortest?`: the fewest decimal digits that are read back as the same number.
* `positional`: those digits without an exponent.
-/

namespace FsGateway.Numeral

/-- A floating-point number; a finite one is plus or minus `m * 2 ^ q`. -/
inductive Binary64
  | finite (negative : Bool) (m : Nat) (q : Int)
  | infinite (negative : Bool)
  | nan
  deriving DecidableEq, Repr

namespace Binary64

/-- The least exponent of two. -/
def minExponent : Int := -1074

/-- The greatest exponent of two. -/
def maxExponent : Int := 971

/-- The least significand of 53 bits. -/
def leastNormal : Nat := 0x10000000000000

/-- The quotient of `num` and `den`, rounded, with a tie going to the even neighbour. -/
def roundEven (num den : Nat) : Nat :=
  let m := num / den
  let r := 2 * (num % den)
  if den < r ∨ (r = den ∧ m % 2 = 1) then m + 1 else m

/-- `num / den / 2 ^ q` as a numerator and a denominator. -/
def unscale (num den : Nat) (q : Int) : Nat × Nat :=
  if 0 ≤ q then (num, den <<< q.toNat) else (num <<< (-q).toNat, den)

/-- The exponent with which the quotient of `num` and `den` has a significand of 53 bits, or the
least exponent. -/
def exponentOf (num den : Nat) : Int :=
  let q : Int := (Nat.log2 num : Int) - (Nat.log2 den : Int) - 53
  let (n, d) := unscale num den q
  let q := if 2 * leastNormal ≤ n / d then q + 1 else q
  max q minExponent

/-- The number nearest to the quotient of `num` and `den`. -/
def ofRatio (negative : Bool) (num den : Nat) : Binary64 :=
  if num = 0 then finite negative 0 minExponent
  else
    let q := exponentOf num den
    let (n, d) := unscale num den q
    let m := roundEven n d
    let (m, q) := if m = 2 * leastNormal then (leastNormal, q + 1) else (m, q)
    if maxExponent < q then infinite negative else finite negative m q

/-- A power of ten. -/
def tenTo (n : Nat) : Nat := Nat.pow 10 n

/-- The number nearest to `digits * 10 ^ exponent`. -/
def ofDecimal (negative : Bool) (digits : Nat) (exponent : Int) : Binary64 :=
  if 0 ≤ exponent then ofRatio negative (digits * tenTo exponent.toNat) 1
  else ofRatio negative digits (tenTo (-exponent).toNat)

/-- Plus or minus the same magnitude. -/
def withSign (negative : Bool) : Binary64 → Binary64
  | finite _ m q => finite negative m q
  | infinite _ => infinite negative
  | nan => nan

/-- `m * 2 ^ q` as a numerator and a denominator. -/
def ratio (m : Nat) (q : Int) : Nat × Nat :=
  if 0 ≤ q then (m <<< q.toNat, 1) else (m, 1 <<< (-q).toNat)

/-- The product of two positive numbers, rounded once. -/
def mul : Binary64 → Binary64 → Binary64
  | finite _ m q, finite _ n p =>
    let (num, den) := ratio (m * n) (q + p)
    ofRatio false num den
  | _, _ => infinite false

/-- The quotient of two positive numbers, rounded once. -/
def div : Binary64 → Binary64 → Binary64
  | finite _ m q, finite _ n p =>
    let (a, b) := ratio m q
    let (c, d) := ratio n p
    if c = 0 then nan else ofRatio false (a * d) (b * c)
  | _, _ => nan

/-- Whether a number is zero. -/
def isZero : Binary64 → Bool
  | finite _ m _ => m = 0
  | _ => false

/-! ## Decimal text -/

/-- The number of decimal digits. -/
def digitCount (n : Nat) : Nat := (Nat.toDigits 10 n).length

/-- The least `e` for which the quotient of `num` and `den` is below `10 ^ e`, for a positive
quotient. -/
def decimalExponent (num den : Nat) : Int :=
  if den ≤ num then digitCount (num / den) else 1 - (digitCount ((den - 1) / num) : Int)

/-- The whole number `digits` for which `digits * 10 ^ unit` is nearest to `m * 2 ^ q` among the
two neighbours on that decimal grid that are read back as `m * 2 ^ q`. Of two that are equally near
it is the greater one. -/
def hit? (m : Nat) (q unit : Int) : Option Nat :=
  let (num, den) := ratio m q
  let (a, b) := if 0 ≤ unit then (num, den * tenTo unit.toNat) else (num * tenTo (-unit).toNat, den)
  let low := a / b
  let reads := fun n => ofDecimal false n unit = finite false m q
  if 2 * (a % b) < b then
    if reads low then some low else if reads (low + 1) then some (low + 1) else none
  else
    if reads (low + 1) then some (low + 1) else if reads low then some low else none

/-- The coarsest decimal grid at or below `10 ^ unit` with a hit, trying `tries` grids. -/
def hitFrom (m : Nat) (q : Int) : (tries : Nat) → (unit : Int) → Nat × Int
  | 0, unit => (0, unit)
  | tries + 1, unit =>
    match hit? m q unit with
    | some digits => (digits, unit)
    | none => hitFrom m q tries (unit - 1)

/-- The fewest digits that are read back as `m * 2 ^ q`, with their power of ten. Seventeen
digits always are. -/
def shortest (m : Nat) (q : Int) : Nat × Int :=
  let (num, den) := ratio m q
  hitFrom m q 18 (decimalExponent num den - 1)

/-- `digits * 10 ^ unit` without an exponent and without a point that no digit follows. -/
def layOut (digits : Nat) (unit : Int) : String :=
  let ds := Nat.toDigits 10 digits
  if 0 ≤ unit then String.ofList (ds ++ List.replicate unit.toNat '0')
  else
    let k := (-unit).toNat
    let ds := List.replicate (k + 1 - ds.length) '0' ++ ds
    String.ofList (ds.take (ds.length - k)) ++ "." ++ String.ofList (ds.drop (ds.length - k))

/-- The shortest decimal text of a number, never with an exponent. -/
def positional : Binary64 → String
  | nan => "NaN"
  | infinite negative => (if negative then "-" else "") ++ "inf"
  | finite negative m q =>
    (if negative then "-" else "") ++
      if m = 0 then "0" else let (digits, unit) := shortest m q; layOut digits unit

/-! ## Whole numbers -/

/-- The nearest whole number, with a half going away from zero, kept within 0 and `limit`. What
is no number counts as 0. -/
def toNatClamped (limit : Nat) : Binary64 → Nat
  | nan => 0
  | infinite negative => if negative then 0 else limit
  | finite negative m q =>
    if negative then 0
    else
      let (num, den) := ratio m q
      min limit ((2 * num + den) / (2 * den))

end Binary64

end FsGateway.Numeral
