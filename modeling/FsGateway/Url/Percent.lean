import FsGateway.Text.Utf8

/-!
# Percent encoding

Each part of a URL has its own set of characters that are written as percent signs with two
uppercase hexadecimal digits. Characters beyond ASCII and control characters always are.
-/

namespace FsGateway.Url

/-- A part of a URL, by what has to be encoded in it. -/
inductive EncodeSet
  | controls | fragment | query | specialQuery | path | userinfo
  deriving DecidableEq, Repr

namespace EncodeSet

/-- The printable characters of a set. -/
def printable : EncodeSet → List Char
  | controls => []
  | fragment => [' ', '"', '<', '>', '`']
  | query => [' ', '"', '#', '<', '>']
  | specialQuery => [' ', '"', '#', '<', '>', '\'']
  | path => [' ', '"', '<', '>', '`', '#', '?', '\x7b', '\x7d']
  | userinfo =>
    [' ', '"', '<', '>', '`', '#', '?', '\x7b', '\x7d', '/', ':', ';', '=', '@', '[', '\\', ']',
     '^', '|']

/-- Whether a character is in a set. -/
def contains (s : EncodeSet) (c : Char) : Bool :=
  c.toNat < 0x20 || 0x7E < c.toNat || s.printable.contains c

end EncodeSet

/-- The uppercase hexadecimal digit of a number below sixteen. -/
def upperHex (n : Nat) : Char := Char.ofNat (if n < 10 then 0x30 + n else 0x37 + n)

/-- A byte in percent form. -/
def percentByte (b : UInt8) : List Char :=
  ['%', upperHex (b.toNat / 16), upperHex (b.toNat % 16)]

/-- A character of a part of a URL. -/
def encodeChar (s : EncodeSet) (c : Char) : List Char :=
  if s.contains c then (Text.encode (String.singleton c)).flatMap percentByte else [c]

/-- The characters of a part of a URL. -/
def percentEncode (s : EncodeSet) (cs : List Char) : List Char := cs.flatMap (encodeChar s)

/-- The value of a hexadecimal digit of either case. -/
def hexValue? (b : UInt8) : Option Nat :=
  if 0x30 ≤ b ∧ b ≤ 0x39 then some (b.toNat - 0x30)
  else if 0x41 ≤ b ∧ b ≤ 0x46 then some (b.toNat - 0x37)
  else if 0x61 ≤ b ∧ b ≤ 0x66 then some (b.toNat - 0x57)
  else none

/-- The bytes that a percent-encoded byte string stands for. A percent sign that no two digits
follow stands for itself. -/
def percentDecode : Bytes → Bytes
  | 0x25 :: a :: b :: rest =>
    match hexValue? a, hexValue? b with
    | some x, some y => UInt8.ofNat (16 * x + y) :: percentDecode rest
    | _, _ => 0x25 :: percentDecode (a :: b :: rest)
  | c :: rest => c :: percentDecode rest
  | [] => []

end FsGateway.Url
