import FsGateway.Numeral.Decimal

/-!
# TOML dates and times

A date, a time, or both with an optional offset from universal time. They are kept as text in one
form: the letters are capitals, and fractions of a second have up to nine digits, with no zeros at
the end unless a single zero is all there is. Seconds may be missing.
-/

namespace FsGateway.Toml.Instant

open FsGateway.Numeral (isDigit digitsValue)

/-- The number spelled by the first `n` characters, all digits, and the rest. -/
def field? (n : Nat) (cs : List Char) : Option (Nat × List Char) :=
  let ds := cs.take n
  if ds.length = n ∧ ds.all (isDigit 10) then some (digitsValue 10 ds, cs.drop n) else none

/-- A number with zeros in front up to a width. -/
def padded (width n : Nat) : String :=
  let ds := Nat.toDigits 10 n
  String.ofList (List.replicate (width - ds.length) '0' ++ ds)

/-- How many days a month has. -/
def daysIn (year month : Nat) : Nat :=
  if month = 2 then
    if year % 4 = 0 ∧ (year % 100 ≠ 0 ∨ year % 400 = 0) then 29 else 28
  else if month = 4 ∨ month = 6 ∨ month = 9 ∨ month = 11 then 30
  else 31

/-- The input after a character that it starts with. -/
def expect? (c : Char) : List Char → Option (List Char)
  | d :: cs => if d = c then some cs else none
  | [] => none

/-- The date at the start of the input. -/
def date? (cs : List Char) : Option (String × List Char) := do
  let (year, cs) ← field? 4 cs
  let (month, cs) ← field? 2 (← expect? '-' cs)
  let (day, cs) ← field? 2 (← expect? '-' cs)
  if 1 ≤ month ∧ month ≤ 12 ∧ 1 ≤ day ∧ day ≤ daysIn year month then
    pure (padded 4 year ++ "-" ++ padded 2 month ++ "-" ++ padded 2 day, cs)
  else none

/-- The fraction of a second at the start of the input, as the text behind the seconds. -/
def fraction? : List Char → Option (String × List Char)
  | '.' :: cs =>
    let ds := cs.takeWhile (isDigit 10)
    let kept := ((ds.take 9).reverse.dropWhile (· = '0')).reverse
    if ds = [] then none
    else some ("." ++ String.ofList (if kept = [] then ['0'] else kept), cs.dropWhile (isDigit 10))
  | cs => some ("", cs)

/-- The seconds at the start of the input, as the text behind the minutes. A minute may have a leap
second. -/
def seconds? : List Char → Option (String × List Char)
  | ':' :: cs => do
    let (second, cs) ← field? 2 cs
    let (fraction, cs) ← fraction? cs
    if second ≤ 60 then pure (":" ++ padded 2 second ++ fraction, cs) else none
  | cs => some ("", cs)

/-- The time of day at the start of the input. -/
def time? (cs : List Char) : Option (String × List Char) := do
  let (hour, cs) ← field? 2 cs
  let (minute, cs) ← field? 2 (← expect? ':' cs)
  let (seconds, cs) ← seconds? cs
  if hour ≤ 23 ∧ minute ≤ 59 then pure (padded 2 hour ++ ":" ++ padded 2 minute ++ seconds, cs)
  else none

/-- The offset that the whole input spells, if it spells one. No offset at all is allowed. -/
def offset? : List Char → Option String
  | [] => some ""
  | ['Z'] | ['z'] => some "Z"
  | sign :: cs => do
    let (hour, cs) ← field? 2 cs
    let (minute, cs) ← field? 2 (← expect? ':' cs)
    let shown := padded 2 hour ++ ":" ++ padded 2 minute
    if cs ≠ [] ∨ 23 < hour ∨ 59 < minute then none
    else if sign = '+' ∨ (sign = '-' ∧ hour = 0 ∧ minute = 0) then some ("+" ++ shown)
    else if sign = '-' then some ("-" ++ shown)
    else none

/-- What may stand between a date and a time. -/
def isSeparator (c : Char) : Bool := c = 'T' || c = 't' || c = ' '

/-- The date, time or both that the whole input spells. -/
def ofChars? (cs : List Char) : Option String :=
  match date? cs with
  | some (date, []) => some date
  | some (date, c :: cs) =>
    if isSeparator c then do
      let (time, cs) ← time? cs
      pure (date ++ "T" ++ time ++ (← offset? cs))
    else none
  | none =>
    match time? cs with
    | some (time, []) => some time
    | _ => none

end FsGateway.Toml.Instant
