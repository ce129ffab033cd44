import FsGateway.Numeral.Decimal

/-!
# TOML strings

A string stands between quotation marks, which allow escapes, or between apostrophes, which do
not. Tripled, both may span lines; a line break that follows the opening marks directly is not
part of the text.

* `quote`: a text between quotation marks.
* `read?`: the string at the start of an input, and what follows it.
* `readLine?`: the same for a string that does not span lines.
-/

namespace FsGateway.Toml.Text

open FsGateway.Numeral (natural?)

/-- Whether a character is a space or a tab. -/
def isBlank (c : Char) : Bool := c = ' ' || c = '\t'

/-- Whether a character is a control character other than a tab. -/
def isControl (c : Char) : Bool := (c < ' ' && c ≠ '\t') || c = '\x7f'

/-- The input after the line break that it starts with. -/
def dropNewline? : List Char → Option (List Char)
  | '\n' :: cs => some cs
  | '\r' :: '\n' :: cs => some cs
  | _ => none

/-! ## Escapes -/

/-- The letters that stand for a character after a backslash. -/
def shortForms : List (Char × Char) :=
  [('b', '\x08'), ('t', '\t'), ('n', '\n'), ('f', '\x0c'), ('r', '\r'), ('"', '"'),
   ('\\', '\\')]

/-- The character that a letter after a backslash stands for. The one for the escape character is
read but not written. -/
def shortEscape? (c : Char) : Option Char :=
  if c = 'e' then some '\x1b' else shortForms.lookup c

/-- The character whose number is spelled by hexadecimal digits. -/
def numbered? (digits : List Char) : Option Char :=
  (natural? 16 digits).bind fun n => if n.isValidChar then some (Char.ofNat n) else none

/-- Puts a character before the text that was read. -/
def push (c : Char) (r : Option (List Char × List Char)) : Option (List Char × List Char) :=
  r.map fun r => (c :: r.1, r.2)

/-! ## Writing -/

/-- One character of a text, escaped if it has to be. -/
def escape (c : Char) : List Char :=
  match shortForms.find? (·.2 = c) with
  | some (letter, _) => ['\\', letter]
  | none =>
    if isControl c then
      let ds := Nat.toDigits 16 c.toNat
      ['\\', 'u'] ++ List.replicate (4 - ds.length) '0' ++ ds
    else [c]

/-- A text between quotation marks. -/
def quote (s : String) : String := String.ofList ('"' :: s.toList.flatMap escape ++ ['"'])

/-! ## Ends -/

/-- What follows closing marks of which there are three, where up to two more are part of the
text. -/
def close? (mark : Char) (cs : List Char) : Option (List Char × List Char) :=
  let run := cs.takeWhile (· = mark)
  if run.length < 3 then none
  else some (List.replicate (min (run.length - 3) 2) mark, cs.drop (min run.length 5))

/-! ## Reading -/

/-- The text up to the closing quotation marks. A backslash at the end of a line is dropped with
all blanks and line breaks that follow, which `trims` says are being dropped. -/
def quoted? (lines : Bool) : (trims : Bool) → List Char → Option (List Char × List Char)
  | _, [] => none
  | trims, c :: cs =>
    if c = '"' then
      if lines then
        match close? '"' (c :: cs) with
        | some r => some r
        | none => push c (quoted? lines false cs)
      else some ([], cs)
    else if c = '\n' then
      if trims then quoted? lines true cs
      else if lines then push c (quoted? lines false cs) else none
    else if c = '\r' then
      if lines && cs.head? = some '\n' then
        if trims then quoted? lines true cs else push c (quoted? lines false cs)
      else none
    else if trims && isBlank c then quoted? lines true cs
    else if c = '\\' then
      match cs with
      | 'x' :: d1 :: d2 :: cs =>
        (numbered? [d1, d2]).bind fun x => push x (quoted? lines false cs)
      | 'u' :: d1 :: d2 :: d3 :: d4 :: cs =>
        (numbered? [d1, d2, d3, d4]).bind fun x => push x (quoted? lines false cs)
      | 'U' :: d1 :: d2 :: d3 :: d4 :: d5 :: d6 :: d7 :: d8 :: cs =>
        (numbered? [d1, d2, d3, d4, d5, d6, d7, d8]).bind fun x => push x (quoted? lines false cs)
      | e :: rest =>
        match shortEscape? e with
        | some x => push x (quoted? lines false rest)
        | none =>
          if lines && (dropNewline? (cs.dropWhile isBlank)).isSome then quoted? lines true (e :: rest)
          else none
      | [] => none
    else if isControl c then none
    else push c (quoted? lines false cs)

/-- The text up to the closing apostrophes. -/
def literal? (lines : Bool) : List Char → Option (List Char × List Char)
  | [] => none
  | c :: cs =>
    if c = '\'' then
      if lines then
        match close? '\'' (c :: cs) with
        | some r => some r
        | none => push c (literal? lines cs)
      else some ([], cs)
    else if c = '\n' then
      if lines then push c (literal? lines cs) else none
    else if c = '\r' then
      if lines && cs.head? = some '\n' then push c (literal? lines cs) else none
    else if isControl c then none
    else push c (literal? lines cs)

/-- The string within one line at the start of the input. -/
def readLine? : List Char → Option (List Char × List Char)
  | '"' :: cs => quoted? false false cs
  | '\'' :: cs => literal? false cs
  | _ => none

/-- The string at the start of the input. -/
def read? : List Char → Option (List Char × List Char)
  | '"' :: '"' :: '"' :: cs => quoted? true false ((dropNewline? cs).getD cs)
  | '\'' :: '\'' :: '\'' :: cs => literal? true ((dropNewline? cs).getD cs)
  | cs => readLine? cs

end FsGateway.Toml.Text
