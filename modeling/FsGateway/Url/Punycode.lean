/-!
# Punycode

A label with characters beyond ASCII is written in ASCII as its characters of ASCII, a hyphen if
there are any, and digits that say which other characters stand where.

* `encode`: the Punycode of a label.
* `decode?`: the label that a text in Punycode stands for.
-/

namespace FsGateway.Url.Punycode

/-- The bias after a delta has been written. -/
def adapt (delta count : Nat) (first : Bool) : Nat :=
  let delta := if first then delta / 700 else delta / 2
  reduce 32 (delta + delta / count) 0
where
  /-- Divides the delta down to the range of one digit. -/
  reduce : Nat → Nat → Nat → Nat
    | 0, delta, k => k + 36 * delta / (delta + 38)
    | fuel + 1, delta, k =>
      if 455 < delta then reduce fuel (delta / 35) (k + 36) else k + 36 * delta / (delta + 38)

/-- The threshold of the digit at position `k`. -/
def threshold (k bias : Nat) : Nat := if k ≤ bias then 1 else if bias + 26 ≤ k then 26 else k - bias

/-- The character of a digit below 36. -/
def digitChar (d : Nat) : Char := Char.ofNat (if d < 26 then 0x61 + d else 0x30 + (d - 26))

/-- The digits of a delta. -/
def deltaDigits : (fuel : Nat) → (q k bias : Nat) → List Char
  | 0, _, _, _ => []
  | fuel + 1, q, k, bias =>
    let t := threshold k bias
    if q < t then [digitChar q]
    else digitChar (t + (q - t) % (36 - t)) :: deltaDigits fuel ((q - t) / (36 - t)) (k + 36) bias

/-- The progress of writing a label: the delta, the bias and the number of characters written. -/
structure Progress where
  delta : Nat
  bias : Nat
  handled : Nat
  output : List Char

/-- Goes over the label once for the code point `n`. -/
def encodeRound (n basic : Nat) (label : List Char) (p : Progress) : Progress :=
  label.foldl (fun p c =>
    if c.toNat < n then { p with delta := p.delta + 1 }
    else if c.toNat = n then
      { delta := 0
        bias := adapt p.delta (p.handled + 1) (p.handled = basic)
        handled := p.handled + 1
        output := p.output ++ deltaDigits 64 p.delta 36 p.bias }
    else p) p

/-- Writes the code points from `n` on that occur in the label. -/
def encodeFrom (label : List Char) (basic : Nat) : (fuel n : Nat) → Progress → List Char
  | 0, _, p => p.output
  | fuel + 1, n, p =>
    match ((label.map Char.toNat).filter (n ≤ ·)).min? with
    | none => p.output
    | some m =>
      let p := encodeRound m basic label { p with delta := p.delta + (m - n) * (p.handled + 1) }
      encodeFrom label basic fuel (m + 1) { p with delta := p.delta + 1 }

/-- A label in Punycode, without the mark. -/
def encode (label : List Char) : List Char :=
  let basic := label.filter (·.toNat < 0x80)
  let start := if basic.isEmpty then [] else basic ++ ['-']
  encodeFrom label basic.length label.length 0x80 ⟨0, 72, basic.length, start⟩

/-- The value of a digit of either case. -/
def digitValue? (c : Char) : Option Nat :=
  if 'a' ≤ c ∧ c ≤ 'z' then some (c.toNat - 0x61)
  else if '0' ≤ c ∧ c ≤ '9' then some (c.toNat - 0x30 + 26)
  else none

/-- The number that a run of digits adds, and the digits after it. -/
def readDelta : List Char → (w k bias : Nat) → Option (Nat × List Char)
  | [], _, _, _ => none
  | c :: cs, w, k, bias =>
    match digitValue? c with
    | none => none
    | some d =>
      let t := threshold k bias
      if d < t then some (d * w, cs)
      else (readDelta cs (w * (36 - t)) (k + 36) bias).map fun r => (d * w + r.1, r.2)

/-- Inserts the code points that the digits stand for. -/
def decodeFrom : (fuel : Nat) → List Char → (n i bias : Nat) → (first : Bool) → List Char →
    Option (List Char)
  | _, [], _, _, _, _, label => some label
  | 0, _, _, _, _, _, _ => none
  | fuel + 1, digits, n, i, bias, first, label =>
    match readDelta digits 1 36 bias with
    | none => none
    | some (delta, rest) =>
      let count := label.length + 1
      let n := n + (i + delta) / count
      let at' := (i + delta) % count
      if n.isValidChar then
        decodeFrom fuel rest n (at' + 1) (adapt delta count first) false
          (label.take at' ++ Char.ofNat n :: label.drop at')
      else none

/-- The label that a Punycode text without its mark stands for. -/
def decode? (cs : List Char) : Option (List Char) :=
  let tail := (cs.reverse.takeWhile (· ≠ '-')).reverse
  let basic := (cs.take (cs.length - tail.length)).dropLast
  decodeFrom cs.length tail 0x80 0 72 true basic

end FsGateway.Url.Punycode
