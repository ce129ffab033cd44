import FsGateway.Url.Domain

/-!
# Hosts

A host is a name, an address of version 4 written as up to four numbers, or an address of version
6 in brackets.
-/

namespace FsGateway.Url

/-- Why a text is no URL. -/
inductive Fault
  | relativeWithoutBase
  | emptyHost
  | invalidPort
  | invalidIpv4
  | invalidIpv6
  | invalidDomain
  | invalidDomainCharacter
  deriving DecidableEq, Repr

/-- The wording of a fault. -/
def Fault.message : Fault → String
  | relativeWithoutBase => "relative URL without a base"
  | emptyHost => "empty host"
  | invalidPort => "invalid port number"
  | invalidIpv4 => "invalid IPv4 address"
  | invalidIpv6 => "invalid IPv6 address"
  | invalidDomain => "invalid international domain name"
  | invalidDomainCharacter => "invalid domain character"

/-- A host. -/
inductive Host
  | name (s : String)
  /-- An address of 32 bits. -/
  | ipv4 (address : Nat)
  /-- An address of eight pieces of 16 bits. -/
  | ipv6 (pieces : List Nat)
  deriving DecidableEq, Repr

namespace Host

/-! ## Version 4 -/

/-- Whether a character is a digit of a radix up to 16. -/
def isDigitOf (radix : Nat) (c : Char) : Bool :=
  match hexValue? (UInt8.ofNat c.toNat) with
  | some v => c.toNat < 0x80 && v < radix
  | none => false

/-- The number spelled by digits of a radix. -/
def digitsValue (radix : Nat) (cs : List Char) : Nat :=
  cs.foldl (fun n c => n * radix + (hexValue? (UInt8.ofNat c.toNat)).getD 0) 0

/-- One number of an address, decimal, octal after a zero or hexadecimal after 0x. -/
def ipv4Number? (cs : List Char) : Option Nat :=
  match cs with
  | [] => none
  | '0' :: 'x' :: ds | '0' :: 'X' :: ds =>
    if ds.all (isDigitOf 16) then some (digitsValue 16 ds) else none
  | '0' :: d :: ds => if (d :: ds).all (isDigitOf 8) then some (digitsValue 8 (d :: ds)) else none
  | ds => if ds.all (isDigitOf 10) then some (digitsValue 10 ds) else none

/-- The parts of a name between its dots, without an empty last one. -/
def dottedParts (cs : List Char) : List (List Char) :=
  let parts := splitAt (· = '.') cs
  if parts.length > 1 ∧ parts.getLast? = some [] then parts.dropLast else parts

/-- Whether the last part of a name is a number, so that the name must be an address. -/
def endsInNumber (cs : List Char) : Bool :=
  match (dottedParts cs).getLast? with
  | none | some [] => false
  | some last => last.all (isDigitOf 10) || (ipv4Number? last).isSome

/-- The address of a list of numbers. The last one fills the bytes that are left. -/
def ipv4Address? (numbers : List Nat) : Option Nat :=
  match numbers.getLast? with
  | none => none
  | some last =>
    let front := numbers.dropLast
    if 3 < front.length ∨ front.any (255 < ·) ∨ wordCount (4 - front.length) ≤ last then none
    else
      let high := front.foldl (fun n x => n * 256 + x) 0
      some (high * wordCount (4 - front.length) + last)

/-- The address that a name spells. -/
def parseIpv4 (cs : List Char) : Except Fault Host :=
  match (dottedParts cs).mapM ipv4Number? with
  | some numbers => (ipv4Address? numbers).elim (.error .invalidIpv4) (.ok ∘ ipv4)
  | none => .error .invalidIpv4

/-! ## Version 6 -/

/-- The four decimal numbers at the end of an address of version 6, as two pieces. -/
def embeddedIpv4? (cs : List Char) : Option (List Nat) :=
  match (splitAt (· = '.') cs).mapM part? with
  | some [a, b, c, d] => some [a * 256 + b, c * 256 + d]
  | _ => none
where
  /-- A decimal number below 256 without leading zeros. -/
  part? (ds : List Char) : Option Nat :=
    if ds.isEmpty ∨ !ds.all (isDigitOf 10) ∨ (1 < ds.length ∧ ds.head? = some '0') then none
    else
      let n := digitsValue 10 ds
      if n < 256 then some n else none

/-- The pieces between single colons. The last of them may be an address of version 4. -/
def pieces? : List (List Char) → Option (List Nat)
  | [] => some []
  | [last] =>
    if last.contains '.' then embeddedIpv4? last else piece? last |>.map fun p => [p]
  | p :: ps =>
    match piece? p, pieces? ps with
    | some n, some ns => some (n :: ns)
    | _, _ => none
where
  /-- One to four hexadecimal digits. -/
  piece? (ds : List Char) : Option Nat :=
    if ds.isEmpty ∨ 4 < ds.length ∨ !ds.all (isDigitOf 16) then none else some (digitsValue 16 ds)

/-- The pieces of a text, of which there are none in the empty text. -/
def piecesOf? (cs : List Char) : Option (List Nat) :=
  if cs.isEmpty then some [] else pieces? (splitAt (· = ':') cs)

/-- Splits at the first pair of colons. -/
def splitAtGap : List Char → Option (List Char × List Char)
  | ':' :: ':' :: rest => some ([], rest)
  | c :: rest => (splitAtGap rest).map fun r => (c :: r.1, r.2)
  | [] => none

/-- The pieces of an address without its brackets. A pair of colons stands for the zeros that are
missing, and for at least one. -/
def ipv6Pieces? (cs : List Char) : Option (List Nat) :=
  match splitAtGap cs with
  | none => do
    let ps ← pieces? (splitAt (· = ':') cs)
    if ps.length = 8 then some ps else none
  | some (front, back) => do
    let front' ← piecesOf? front
    let back' ← piecesOf? back
    if front.contains '.' then none
    else if front'.length + back'.length ≤ 7 then
      some (front' ++ List.replicate (8 - front'.length - back'.length) 0 ++ back')
    else none

/-- The address between brackets. -/
def parseIpv6 (cs : List Char) : Except Fault Host :=
  match cs.getLast? with
  | some ']' => (ipv6Pieces? (cs.drop 1).dropLast).elim (.error .invalidIpv6) (.ok ∘ ipv6)
  | _ => .error .invalidIpv6

/-! ## Names -/

/-- The host of a URL of a special scheme. -/
def parse (cs : List Char) : Except Fault Host :=
  if cs.head? = some '[' then parseIpv6 cs
  else
    match Domain.toAscii? cs with
    | none => .error .invalidDomain
    | some domain =>
      if domain.isEmpty then .error .emptyHost
      else if endsInNumber domain then parseIpv4 domain
      else .ok (name (String.ofList domain))

/-- The characters that no name of a host may hold. -/
def forbidden : List Char :=
  ['\x00', '\t', '\n', '\r', ' ', '#', '/', ':', '<', '>', '?', '@', '[', '\\', ']', '^', '|']

/-- The host of a URL of any other scheme. -/
def parseName (cs : List Char) : Except Fault Host :=
  if cs.head? = some '[' then parseIpv6 cs
  else if cs.any forbidden.contains then .error .invalidDomainCharacter
  else .ok (name (String.ofList (percentEncode .controls cs)))

/-! ## Text -/

/-- An address of version 4 as four decimal numbers. -/
def ipv4Text (address : Nat) : String :=
  ".".intercalate ([address / 16777216, address / 65536 % 256, address / 256 % 256,
    address % 256].map fun n => toString n)

/-- The length of the run of zeros at the start of a list. -/
def zeroRun (ps : List Nat) : Nat := (ps.takeWhile (· = 0)).length

/-- The start and the length of the first longest run of zeros among those found so far and those
that start in `ps`, whose first piece has the index `i`. -/
def longestRun (i : Nat) (best : Nat × Nat) : List Nat → Nat × Nat
  | [] => best
  | p :: ps =>
    let n := zeroRun (p :: ps)
    longestRun (i + 1) (if best.2 < n then (i, n) else best) ps

/-- Pieces in lowercase hexadecimal with colons between them. -/
def piecesText (ps : List Nat) : String :=
  ":".intercalate (ps.map fun p => String.ofList (Nat.toDigits 16 p))

/-- An address of version 6 in brackets, with its first longest run of two or more zeros left
out. -/
def ipv6Text (ps : List Nat) : String :=
  let (start, length) := longestRun 0 (0, 1) ps
  if 2 ≤ length then
    "[" ++ piecesText (ps.take start) ++ "::" ++ piecesText (ps.drop (start + length)) ++ "]"
  else "[" ++ piecesText ps ++ "]"

/-- A host as it stands in a URL. -/
def text : Host → String
  | name s => s
  | ipv4 address => ipv4Text address
  | ipv6 pieces => ipv6Text pieces

end Host

end FsGateway.Url
