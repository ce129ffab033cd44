import FsGateway.Text.Utf8

/-!
# JSON strings

The bytes between the quotes of a JSON string are its raw form. Writing escapes the quote, the
backslash and the control characters, and nothing else.

* `scan`: the raw form at the start of an input, checked only as far as its end must be found.
* `value?`: the text of a raw form. Surrogates must come in pairs and the result must be UTF-8.
-/

namespace FsGateway.Json.Text

/-- The quotation mark. -/
def quote : UInt8 := 0x22

/-- The backslash. -/
def backslash : UInt8 := 0x5C

/-! ## Hexadecimal digits -/

/-- The value of a hexadecimal digit of either case. -/
def hexValue? (b : UInt8) : Option Nat :=
  if 0x30 ≤ b ∧ b ≤ 0x39 then some (b.toNat - 0x30)
  else if 0x41 ≤ b ∧ b ≤ 0x46 then some (b.toNat - 0x37)
  else if 0x61 ≤ b ∧ b ≤ 0x66 then some (b.toNat - 0x57)
  else none

/-- The lowercase hexadecimal digit of a number below sixteen. -/
def hexDigit (n : Nat) : UInt8 := UInt8.ofNat (if n < 10 then 0x30 + n else 0x57 + n)

/-- The number spelled by four hexadecimal digits. -/
def hex4? (a b c d : UInt8) : Option Nat :=
  match hexValue? a, hexValue? b, hexValue? c, hexValue? d with
  | some a, some b, some c, some d => some (((a * 16 + b) * 16 + c) * 16 + d)
  | _, _, _, _ => none

/-! ## Writing -/

/-- The letter after the backslash for the characters that have one, and the other way round. -/
def shortForms : List (UInt8 × UInt8) :=
  [(quote, quote), (backslash, backslash), (0x08, 0x62), (0x0C, 0x66), (0x0A, 0x6E),
   (0x0D, 0x72), (0x09, 0x74)]

/-- One byte of a text, escaped if it has to be. -/
def escape (b : UInt8) : Bytes :=
  match shortForms.lookup b with
  | some letter => [backslash, letter]
  | none =>
    if b < 0x20 then
      [backslash, 0x75, 0x30, 0x30, hexDigit (b.toNat / 16), hexDigit (b.toNat % 16)]
    else [b]

/-- The raw form of a text. -/
def raw (s : String) : Bytes := (FsGateway.Text.encode s).flatMap escape

/-! ## Reading -/

/-- Whether a letter may follow a backslash on its own. -/
def isShortLetter (c : UInt8) : Bool := c = 0x2F || shortForms.any (·.2 = c)

/-- The raw form up to the closing quote, and what follows the quote. -/
def scan : Bytes → Option (Bytes × Bytes)
  | [] => none
  | b :: rest =>
    if b = quote then some ([], rest)
    else if b < 0x20 then none
    else if b = backslash then
      match rest with
      | 0x75 :: h1 :: h2 :: h3 :: h4 :: rest =>
        if (hex4? h1 h2 h3 h4).isSome then
          (scan rest).map fun r => (b :: 0x75 :: h1 :: h2 :: h3 :: h4 :: r.1, r.2)
        else none
      | c :: rest =>
        if isShortLetter c then (scan rest).map fun r => (b :: c :: r.1, r.2) else none
      | [] => none
    else (scan rest).map fun r => (b :: r.1, r.2)

/-- The bytes of a code point that is not a surrogate. -/
def codePoint (n : Nat) : Bytes := FsGateway.Text.encode (String.singleton (Char.ofNat n))

/-- The bytes that a raw form stands for. A surrogate that is not half of a pair stands for
none. -/
def unescape : Bytes → Option Bytes
  | [] => some []
  | b :: rest =>
    if b = backslash then
      match rest with
      | 0x75 :: h1 :: h2 :: h3 :: h4 :: rest =>
        match hex4? h1 h2 h3 h4 with
        | none => none
        | some n =>
          if 0xDC00 ≤ n ∧ n ≤ 0xDFFF then none
          else if 0xD800 ≤ n ∧ n ≤ 0xDBFF then
            match rest with
            | 0x5C :: 0x75 :: l1 :: l2 :: l3 :: l4 :: rest =>
              match hex4? l1 l2 l3 l4 with
              | some m =>
                if 0xDC00 ≤ m ∧ m ≤ 0xDFFF then
                  (unescape rest).map
                    (codePoint (0x10000 + (n - 0xD800) * 0x400 + (m - 0xDC00)) ++ ·)
                else none
              | none => none
            | _ => none
          else (unescape rest).map (codePoint n ++ ·)
      | c :: rest =>
        if c = 0x2F then (unescape rest).map (c :: ·)
        else
          match shortForms.find? (·.2 = c) with
          | some p => (unescape rest).map (p.1 :: ·)
          | none => none
      | [] => none
    else (unescape rest).map (b :: ·)

/-- The text of a raw form, if it has one. -/
def value? (raw : Bytes) : Option String := (unescape raw).bind FsGateway.Text.decode?

end FsGateway.Json.Text
