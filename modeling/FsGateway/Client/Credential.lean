import FsGateway.Text.Utf8

/-!
# Credentials and trace tokens

A credential says which process issued a call. It travels as twelve bytes in base 64. A trace
token is the number of a call, written in base 36.

* `authorization`: the value of the header that carries a credential.
* `traceText`, `parseTrace`: a trace token as text and back.
-/

namespace FsGateway.Client

/-! ## Base 64 -/

namespace Base64

/-- The character of six bits. -/
def digit (n : Nat) : Char :=
  if n < 26 then Char.ofNat (0x41 + n)
  else if n < 52 then Char.ofNat (0x61 + (n - 26))
  else if n < 62 then Char.ofNat (0x30 + (n - 52))
  else if n = 62 then '+' else '/'

/-- Three bytes as four characters, the last group filled up with equality signs. -/
def encode : Bytes → List Char
  | a :: b :: c :: rest =>
    let n := (a.toNat * 256 + b.toNat) * 256 + c.toNat
    digit (n / 262144) :: digit (n / 4096 % 64) :: digit (n / 64 % 64) :: digit (n % 64)
      :: encode rest
  | [a, b] =>
    let n := (a.toNat * 256 + b.toNat) * 4
    [digit (n / 4096), digit (n / 64 % 64), digit (n % 64), '=']
  | [a] =>
    let n := a.toNat * 16
    [digit (n / 64), digit (n % 64), '=', '=']
  | [] => []

/-- The six bits of a character. -/
def value? (c : Char) : Option Nat :=
  if 'A' ≤ c ∧ c ≤ 'Z' then some (c.toNat - 0x41)
  else if 'a' ≤ c ∧ c ≤ 'z' then some (c.toNat - 0x61 + 26)
  else if '0' ≤ c ∧ c ≤ '9' then some (c.toNat - 0x30 + 52)
  else if c = '+' then some 62
  else if c = '/' then some 63
  else none

end Base64

/-! ## Credentials -/

/-- The process that issued a call. -/
structure Credential where
  uid : UInt32
  gid : UInt32
  pid : UInt32
  deriving DecidableEq, Repr

namespace Credential

/-- The three numbers, each little-endian. -/
def bytes (c : Credential) : Bytes :=
  wordBytes 4 c.uid.toNat ++ wordBytes 4 c.gid.toNat ++ wordBytes 4 c.pid.toNat

/-- The value of the authorization header under a scheme. -/
def authorization (scheme : String) (c : Credential) : String :=
  scheme ++ " " ++ String.ofList (Base64.encode c.bytes)

end Credential

/-! ## Trace tokens -/

/-- The number of a call, unique among the calls in flight. -/
abbrev Trace := UInt64

/-- A trace token in base 36, in lowercase and without leading zeros. -/
def traceText (t : Trace) : String :=
  String.ofList (digits t.toNat)
where
  /-- The character of a digit. -/
  digit (n : Nat) : Char := Char.ofNat (if n < 10 then 0x30 + n else 0x57 + n)
  /-- The digits of a number. -/
  digits (n : Nat) : List Char := if n < 36 then [digit n] else digits (n / 36) ++ [digit (n % 36)]
  termination_by n
  decreasing_by omega

/-- Why a text is no trace token. -/
inductive TraceFault
  | empty
  | invalidDigit
  | overflow
  deriving DecidableEq, Repr

/-- The wording of a fault. -/
def TraceFault.message : TraceFault → String
  | empty => "cannot parse integer from empty string"
  | invalidDigit => "invalid digit found in string"
  | overflow => "number too large to fit in target type"

/-- The value of a base-36 digit of either case. -/
def traceDigit? (c : Char) : Option Nat :=
  if '0' ≤ c ∧ c ≤ '9' then some (c.toNat - 0x30)
  else if 'a' ≤ c ∧ c ≤ 'z' then some (c.toNat - 0x61 + 10)
  else if 'A' ≤ c ∧ c ≤ 'Z' then some (c.toNat - 0x41 + 10)
  else none

/-- The number that `n` becomes with more digits behind it. The first digit that is none or that
makes the number too large decides. -/
def traceDigits (n : Nat) : List Char → Except TraceFault Nat
  | [] => .ok n
  | c :: cs =>
    match traceDigit? c with
    | none => .error .invalidDigit
    | some d => if n * 36 + d < UInt64.size then traceDigits (n * 36 + d) cs else .error .overflow

/-- The trace token of a text, which may start with a plus sign. -/
def parseTrace (s : String) : Except TraceFault Trace :=
  match s.toList with
  | [] => .error .empty
  | ['+'] => .error .invalidDigit
  | '+' :: cs => (traceDigits 0 cs).map UInt64.ofNat
  | cs => (traceDigits 0 cs).map UInt64.ofNat

/-- Who issued a call, and which call it is. -/
structure Identity where
  credential : Credential
  trace : Trace
  deriving DecidableEq, Repr

end FsGateway.Client
