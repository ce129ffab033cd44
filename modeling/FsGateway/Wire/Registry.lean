import FsGateway.Wire.Messages

/-!
# The registry

A registry gives every operation the layouts of its request and of its response. It is made from a
list of entries in any order, in which every operation must occur once.

* `ofEntries`: the registry of a list of entries, or the first thing wrong with the list.
* `builtin`: the registry of the wire records.
-/

namespace FsGateway.Wire

/-- What is registered for one operation: the names and fields of its two records. -/
structure Entry where
  operation : Operation
  request : String × List Field
  response : String × List Field
  deriving DecidableEq

/-- The layouts of one operation. -/
structure Descriptor where
  operation : Operation
  request : Layout
  response : Layout
  deriving DecidableEq

namespace Descriptor

/-- The path on the backend. -/
def path (d : Descriptor) : String := d.operation.path

/-- The layout of the request, unless it has no body. -/
def request? (d : Descriptor) : Option Layout := if d.request.isEmpty then none else some d.request

/-- The layout of the response, unless it has no body. -/
def response? (d : Descriptor) : Option Layout :=
  if d.response.isEmpty then none else some d.response

end Descriptor

/-- The layouts of all operations. -/
structure Registry where
  descriptor : Operation → Descriptor

namespace Registry

/-- The descriptors in registry order. -/
def rows (r : Registry) : List Descriptor := Operation.all.map r.descriptor

instance : DecidableEq Registry := fun r s =>
  if h : ∀ op, r.descriptor op = s.descriptor op then
    isTrue (by cases r; cases s; congr; exact funext h)
  else isFalse fun e => h fun _ => e ▸ rfl

/-! ## From a list of entries -/

/-- The descriptor of an entry, if its operation is not registered yet and its records have
layouts. -/
def register (seen : List Descriptor) (e : Entry) : Except LayoutFault (List Descriptor) :=
  if seen.any (·.operation = e.operation) then .error (.duplicate e.operation)
  else do
    let request ← Layout.ofFields e.request.1 e.request.2
    let response ← Layout.ofFields e.response.1 e.response.2
    pure (seen ++ [⟨e.operation, request, response⟩])

/-- The descriptor registered for an operation. -/
def find? (seen : List Descriptor) (op : Operation) : Option Descriptor :=
  seen.find? (·.operation = op)

/-- The registry of descriptors that cover every operation. -/
def complete (seen : List Descriptor) : Except LayoutFault Registry :=
  match h : Operation.all.find? fun op => (find? seen op).isNone with
  | some op => .error (.missing op)
  | none =>
    have covered (op : Operation) : (find? seen op).isSome := by
      have := List.find?_eq_none.mp h op (Operation.mem_all op)
      simpa [Option.isSome_iff_ne_none] using this
    .ok ⟨fun op => (find? seen op).get (covered op)⟩

/-- The registry of a list of entries. A fault of an entry is reported before an operation that is
missing. -/
def ofEntries (entries : List Entry) : Except LayoutFault Registry := do
  complete (← entries.foldlM register [])

/-! ## The built-in table -/

/-- What is registered for an operation of the table. -/
def entry (op : Operation) : Entry where
  operation := op
  request := (Record.name op.Request, Record.fields op.Request)
  response := (Record.name op.Response, Record.fields op.Response)

/-- The entries of all operations. -/
def entries : List Entry := Operation.all.map entry

/-- Splits fields into those of fixed width and those of varying length. -/
def split (record : String) (fields : List Field) : Layout where
  record := record
  head := fields.filterMap fun f =>
    match f.type with
    | .fixed t => some ⟨f.name, t⟩
    | .varying _ => none
  tail := fields.filterMap fun f =>
    match f.type with
    | .fixed _ => none
    | .varying t => some ⟨f.name, t⟩

/-- The layout of a record of the table. -/
def layoutOf (R : Type) [Record R] : Layout := split (Record.name R) (Record.fields R)

/-- The registry of the table. -/
def builtin : Registry where
  descriptor op := ⟨op, layoutOf op.Request, layoutOf op.Response⟩

end Registry

/-- The layout of an operation's request. -/
def Operation.requestLayout (op : Operation) : Layout := (Registry.builtin.descriptor op).request

/-- The layout of an operation's response. -/
def Operation.responseLayout (op : Operation) : Layout := (Registry.builtin.descriptor op).response

/-- The layout of one side of an operation. -/
def Operation.layout (op : Operation) : Side → Layout
  | .request => op.requestLayout
  | .response => op.responseLayout

end FsGateway.Wire
