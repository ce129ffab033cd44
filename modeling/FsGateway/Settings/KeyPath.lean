import FsGateway.Settings.Value

/-!
# Key paths

The outermost keys of a source are paths: a name, followed by names behind points and by positions
in brackets. A key that is not of this form stands for itself.

* `ofKey`: the path of a key.
* `assign`: a value laid over what stands at a path.
-/

namespace FsGateway.Settings

open FsGateway.Numeral (fitsInt64 integer?)

/-- A step below a name. -/
inductive Step
  | key (k : String)
  /-- A position in a list, counted from the end if it is negative. -/
  | position (i : Int)
  deriving DecidableEq, Repr

/-- Where a value stands. -/
structure KeyPath where
  root : String
  steps : List Step
  deriving DecidableEq, Repr

namespace KeyPath

/-! ## Reading -/

/-- Whether a character can stand in a name. -/
def isNameChar (c : Char) : Bool := c.isAlphanum || c = '_' || c = '-'

/-- The position that stands between brackets, which may have spaces around it. -/
def position? (cs : List Char) : Option Int :=
  let isSpace := fun c => c = ' ' || c = '\t'
  let cs := ((cs.dropWhile isSpace).reverse.dropWhile isSpace).reverse
  if cs.head? = some '+' then none
  else (integer? cs).bind fun i => if fitsInt64 i then some i else none

/-- The steps that the whole input spells. -/
def steps? : (fuel : Nat) → List Char → Option (List Step)
  | 0, _ => none
  | _, [] => some []
  | fuel + 1, '.' :: cs =>
    let name := cs.takeWhile isNameChar
    if name = [] then none
    else (steps? fuel (cs.dropWhile isNameChar)).map (.key (String.ofList name) :: ·)
  | fuel + 1, '[' :: cs =>
    match position? (cs.takeWhile (· ≠ ']')), cs.dropWhile (· ≠ ']') with
    | some i, _ :: rest => (steps? fuel rest).map (.position i :: ·)
    | _, _ => none
  | _, _ => none

/-- The path that a key spells. -/
def ofKey? (key : String) : Option KeyPath :=
  let cs := key.toList
  let name := cs.takeWhile isNameChar
  if name = [] then none
  else (steps? (cs.length + 1) (cs.dropWhile isNameChar)).map fun ss => ⟨String.ofList name, ss⟩

/-- The path of a key. -/
def ofKey (key : String) : KeyPath := (ofKey? key).getD ⟨key, []⟩

/-! ## Assigning -/

/-- A value changed at the end of steps. What has a position in it becomes a list. -/
def along (f : Value → Value) : List Step → Value → Value
  | [], v => f v
  | .key k :: ss, v => v.edit k (along f ss)
  | .position _ :: _, _ => .list

/-- A value laid over what stands at a path. -/
def assign (p : KeyPath) (new old : Value) : Value := old.edit p.root (along new.assign p.steps)

end KeyPath

/-- The members of a source laid over a value. -/
def Value.layer (ms : List (String × Value)) (v : Value) : Value :=
  ms.foldl (fun v m => (KeyPath.ofKey m.1).assign m.2 v) v

end FsGateway.Settings
