import FsGateway.Wire.Field
import FsGateway.Wire.Operation

/-!
# Layouts

A layout is a record whose fields of varying length all come last: the fields of fixed width form
a packed prefix, and the shape says how the fields after it are framed.

* `ofFields`: the layout of a list of fields, or the first field of varying length and the first
  field of fixed width after it.
* `ofFields_fields`: every layout is the layout of its own fields.
-/

namespace FsGateway.Wire

/-- Why a table of operations is refused. -/
inductive LayoutFault
  | fixedAfterVarying (record field after : String)
  | duplicate (op : Operation)
  | missing (op : Operation)
  deriving DecidableEq, Repr

/-- The wording of a refusal. -/
def LayoutFault.message : LayoutFault → String
  | fixedAfterVarying record field after =>
    record ++ ": variable-length field `" ++ field ++ "` is followed by fixed field `" ++ after
      ++ "`"
  | duplicate op => "operation " ++ op.name ++ " is registered more than once"
  | missing op => "operation " ++ op.name ++ " has no registered descriptor"

/-- How the fields of varying length are framed. -/
inductive Shape
  /-- There are no fields, and the payload is empty. -/
  | empty
  /-- The payload is the prefix. -/
  | fixed
  /-- The payload is one field of varying length. -/
  | wholeBody
  /-- A prefix is followed by one field that takes the rest. -/
  | prefixAndTail
  /-- Several fields of varying length, escaped and terminated, follow the prefix. -/
  | delimited
  deriving DecidableEq, Repr

/-- The name of a shape. -/
def Shape.name : Shape → String
  | empty => "Empty" | fixed => "Fixed" | wholeBody => "WholeBody"
  | prefixAndTail => "PrefixAndTail" | delimited => "Delimited"

/-- A record with its fields of fixed width before its fields of varying length. -/
structure Layout where
  record : String
  head : List (Named FixedType)
  tail : List (Named VaryingType)
  deriving DecidableEq, Repr

namespace Layout

/-- The fields in declaration order. -/
def fields (l : Layout) : List Field :=
  l.head.map (fun f => ⟨f.name, .fixed f.type⟩) ++ l.tail.map (fun f => ⟨f.name, .varying f.type⟩)

/-- The number of bytes of the packed prefix. -/
def prefixLength (l : Layout) : Nat := l.head.foldr (fun f n => f.type.width + n) 0

/-- How the payload is framed. -/
def shape (l : Layout) : Shape :=
  match l.head, l.tail with
  | [], [] => .empty
  | _ :: _, [] => .fixed
  | [], [_] => .wholeBody
  | _ :: _, [_] => .prefixAndTail
  | _, _ :: _ :: _ => .delimited

/-- Whether there are no fields. -/
def isEmpty (l : Layout) : Bool := l.head.isEmpty && l.tail.isEmpty

/-! ## From a list of fields -/

/-- The fields of varying length, which must be all of `fields`; `first` is the first of them. -/
def ofTail (record first : String) : List Field → Except LayoutFault (List (Named VaryingType))
  | [] => .ok []
  | ⟨name, .varying t⟩ :: rest => (ofTail record first rest).map (⟨name, t⟩ :: ·)
  | ⟨name, .fixed _⟩ :: _ => .error (.fixedAfterVarying record first name)

/-- The layout of a record, if none of its fields of fixed width follows one of varying length. -/
def ofFields (record : String) : List Field → Except LayoutFault Layout
  | [] => .ok ⟨record, [], []⟩
  | ⟨name, .fixed t⟩ :: rest =>
    (ofFields record rest).map fun l => { l with head := ⟨name, t⟩ :: l.head }
  | ⟨name, .varying t⟩ :: rest =>
    (ofTail record name rest).map fun tail => ⟨record, [], ⟨name, t⟩ :: tail⟩

theorem ofTail_map (record first : String) (tail : List (Named VaryingType)) :
    ofTail record first (tail.map fun f => ⟨f.name, .varying f.type⟩) = .ok tail := by
  induction tail with
  | nil => rfl
  | cons f tail ih => simp [ofTail, ih, Except.map]

theorem ofFields_fields (l : Layout) : ofFields l.record l.fields = .ok l := by
  obtain ⟨record, head, tail⟩ := l
  induction head with
  | nil =>
    cases tail with
    | nil => rfl
    | cons f tail => simp [fields, ofFields, ofTail_map, Except.map]
  | cons f head ih =>
    simp only [fields] at ih
    simp [fields, ofFields, ih, Except.map]

end Layout

end FsGateway.Wire
