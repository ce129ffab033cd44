import FsGateway.Url.Domain.Joiner
import FsGateway.Url.Percent
import FsGateway.Url.Punycode

/-!
# Domain names in ASCII

A domain name is percent-decoded, and other characters take the place of some of its own. It is
composed and split at its dots. A label with characters beyond ASCII is written in Punycode after
the mark xn--.

* `toAscii?`: the ASCII form of a domain name, if it has one.
-/

namespace FsGateway.Url.Domain

/-! ## Labels -/

/-- A label: its characters, and how it is written in ASCII. -/
structure Label where
  meant : List Char
  written : List Char
  deriving DecidableEq, Repr

/-- The mark of a label in Punycode. -/
def mark : List Char := ['x', 'n', '-', '-']

/-- The most characters that a label with characters beyond ASCII has. -/
def maxLength : Nat := 1000

/-- The most characters that the Punycode of a label has. -/
def maxCodeLength : Nat := 2000

/-- Whether characters make up a label: each may stand in a domain name, the first one is no mark,
joiners are where they are needed, and there are not too many. -/
def isLabel (cs : List Char) : Bool :=
  cs.all isAllowed && !cs.head?.any isMark && joinersFit [] cs && cs.length ≤ maxLength

/-- Whether all characters of a text are characters of ASCII. -/
def isAscii (cs : List Char) : Bool := cs.all (·.toNat < 0x80)

/-- The label that a Punycode text stands for. It is in the composed form. -/
def labelOfCode? (code : List Char) : Option Label :=
  if isAscii code ∧ code.getLast?.any (· ≠ '-') ∧ code.length ≤ maxCodeLength then
    match Punycode.decode? code with
    | some meant =>
      if isLabel meant ∧ compose meant = meant then some ⟨meant, mark ++ code⟩ else none
    | none => none
  else none

/-- The label of a text between two dots. -/
def label? (cs : List Char) : Option Label :=
  if mark.isPrefixOf cs then labelOfCode? (cs.drop mark.length)
  else if isAscii cs then some ⟨cs, cs⟩
  else if isLabel cs then some ⟨cs, mark ++ Punycode.encode cs⟩
  else none

/-! ## Domain names -/

/-- Whether the order of the characters of a domain name is plain. It is if all of them are written
from left to right. -/
def areInOrder (labels : List Label) : Bool :=
  labels.all (fun l => l.meant.all fun c => !(direction c).isFromRight)
    || labels.all fun l => isPlain l.meant

/-- The characters of a domain name in the form in which it is split into labels. -/
def normalForm? (cs : List Char) : Option (List Char) :=
  (cs.mapM standIn?).map fun parts => compose parts.flatten

/-- The labels of a domain name. -/
def labels? (cs : List Char) : Option (List Label) :=
  match normalForm? cs with
  | some normal =>
    if normal.any isDelimiter then none else (splitAt (· = '.') normal).mapM label?
  | none => none

/-- The ASCII form of the characters of a domain name. -/
def toAsciiChars? (cs : List Char) : Option (List Char) :=
  match labels? cs with
  | some labels =>
    if areInOrder labels then some (['.'].intercalate (labels.map Label.written)) else none
  | none => none

/-- The ASCII form of a domain name that may hold percent forms. -/
def toAscii? (cs : List Char) : Option (List Char) :=
  match Text.decode? (percentDecode (Text.encode (String.ofList cs))) with
  | some s => toAsciiChars? s.toList
  | none => none

end FsGateway.Url.Domain
