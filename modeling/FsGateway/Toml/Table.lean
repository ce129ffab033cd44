import FsGateway.Toml.Value

/-!
# Tables of a TOML document

A document builds its tables piece by piece. A header opens a table once, though a header below it
may have implied it before. A dotted key makes tables of its own kind, which only dotted keys in
the same place can extend. Values that are written in one piece are never extended.

* `Members.assign?`: a key, possibly dotted, with its value.
* `Members.openTable?`, `Members.openElement?`: what a header does to the table that holds it.
* `Members.within?`: a change below a path of tables.
-/

namespace FsGateway.Toml

/-- How a table came to be. -/
inductive Origin
  /-- Its own header opened it. -/
  | header
  /-- A header of a table below it implied it. -/
  | implied
  /-- A dotted key made it. -/
  | dotted
  deriving DecidableEq, Repr

/-- What stands under a key while a document is read. -/
inductive Item
  | value (v : Value)
  | table (origin : Origin) (members : List (String × Item))
  /-- An array of tables, of which the last one is being filled. The others are listed from the
  latest to the first. -/
  | tables (last : List (String × Item)) (earlier : List (List (String × Item)))

/-- The keys of a table, with what stands under them. -/
abbrev Members := List (String × Item)

/-! ## Values -/

mutual

/-- What stands under a key, as a value. -/
def Item.toValue : Item → Value
  | .value v => v
  | .table _ members => .table (valuesOf members)
  | .tables last earlier => .array (tablesOf earlier [.table (valuesOf last)])

/-- The members of a table as values. -/
def valuesOf : List (String × Item) → List (String × Value)
  | [] => []
  | (k, x) :: ms => (k, x.toValue) :: valuesOf ms

/-- Tables that are listed from the latest to the first, as values in order before others. -/
def tablesOf : List (List (String × Item)) → List Value → List Value
  | [], vs => vs
  | t :: ts, vs => tablesOf ts (.table (valuesOf t) :: vs)

end

namespace Members

/-! ## Changes -/

/-- The members with an item under a key, in the place of what stood there. -/
def put (k : String) (x : Item) : Members → Members
  | [] => [(k, x)]
  | (k', y) :: ms => if k' = k then (k, x) :: ms else (k', y) :: put k x ms

/-- A change to the table below a path. Tables that are missing on the way are implied. In an
array of tables the path leads into the last one. -/
def within? (path : List String) (f : Members → Option Members) (ms : Members) :
    Option Members :=
  match path with
  | [] => f ms
  | k :: path =>
    match ms.lookup k with
    | none => (within? path f []).map fun inner => ms.put k (.table .implied inner)
    | some (.table o inner) => (within? path f inner).map fun inner => ms.put k (.table o inner)
    | some (.tables last earlier) =>
      (within? path f last).map fun last => ms.put k (.tables last earlier)
    | some (.value _) => none

/-- Opens a table under a key. -/
def openTable? (k : String) (ms : Members) : Option Members :=
  match ms.lookup k with
  | none => some (ms.put k (.table .header []))
  | some (.table .implied inner) => some (ms.put k (.table .header inner))
  | some _ => none

/-- Opens the next table of an array of tables under a key. -/
def openElement? (k : String) (ms : Members) : Option Members :=
  match ms.lookup k with
  | none => some (ms.put k (.tables [] []))
  | some (.tables last earlier) => some (ms.put k (.tables [] (last :: earlier)))
  | some _ => none

/-- Whether a dotted key can go through a table, with `isEnd` if the value is to stand in it. -/
def admits (o : Origin) (isEnd : Bool) : Bool :=
  match o with
  | .header => false
  | .implied => !isEnd
  | .dotted => true

/-- Puts a value under a key that is new. -/
def assign? (keys : List String) (v : Value) (ms : Members) : Option Members :=
  match keys with
  | [] => none
  | [k] => if (ms.lookup k).isSome then none else some (ms.put k (.value v))
  | k :: keys =>
    match ms.lookup k with
    | none => (assign? keys v []).map fun inner => ms.put k (.table .dotted inner)
    | some (.table o inner) =>
      if admits o (keys.length = 1) then
        (assign? keys v inner).map fun inner => ms.put k (.table o inner)
      else none
    | some (.tables last earlier) =>
      if keys.length = 1 then none
      else (assign? keys v last).map fun last => ms.put k (.tables last earlier)
    | some (.value _) => none

end Members

end FsGateway.Toml
