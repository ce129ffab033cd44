import FsGateway.Json.Document
import FsGateway.Mount.Fault

/-!
# Mount descriptors

A mount descriptor says where a filesystem is mounted, which backend serves it and with which
options. Descriptors are sent to the admin interface and kept in the mount table as JSON.

* `ofNode`, `toNode`: a descriptor as a JSON object. All but the first two fields may be left out.
* `validate`: whether a descriptor can be mounted at all.
* `options`: what the kernel is told.
-/

namespace FsGateway.Mount

/-- Who besides the mounting user may access a filesystem. -/
inductive Access
  | owner | root | other
  deriving DecidableEq, Repr

/-- The name of a kind of access. -/
def Access.name : Access → String
  | owner => "Owner" | root => "Root" | other => "Other"

/-- What is mounted where. -/
structure Descriptor where
  point : Path
  target : String
  fsname : String := ""
  subtype : String := ""
  name : String := ""
  allow : String := ""
  readonly : Int32 := 0
  deriving DecidableEq, Repr

namespace Descriptor

/-! ## JSON -/

/-- The fields of a descriptor. -/
def schema : Json.Schema Json.DocumentType :=
  .field "mountpoint" .text none <| .field "target" .text none <|
  .field "fsname" .text (some ("" : String)) <| .field "subtype" .text (some ("" : String)) <|
  .field "name" .text (some ("" : String)) <| .field "allow" .text (some ("" : String)) <|
  .field "readonly" .i32 (some (0 : Int32)) .done

/-- A descriptor as nested pairs. -/
def toTuple (d : Descriptor) : schema.Tuple :=
  (d.point.text, d.target, d.fsname, d.subtype, d.name, d.allow, d.readonly, ())

/-- A descriptor from nested pairs. -/
def ofTuple : schema.Tuple → Descriptor
  | (point, target, fsname, subtype, name, allow, readonly, ()) =>
    ⟨⟨point⟩, target, fsname, subtype, name, allow, readonly⟩

/-- A descriptor as a JSON object. -/
def toNode (d : Descriptor) : Json.Node := schema.toNode d.toTuple

/-- The descriptor of a JSON node. -/
def ofNode (n : Json.Node) : Except Json.Fault Descriptor := (schema.ofNode n).map ofTuple

/-! ## Meaning -/

/-- Who may access the filesystem. -/
def access (d : Descriptor) : Except Fault Access :=
  if d.allow = "" then .ok .owner
  else if d.allow = "allow_root" then .ok .root
  else if d.allow = "allow_other" then .ok .other
  else .error (.invalidAllow d.allow)

/-- Whether the mount is read-only. -/
def isReadOnly (d : Descriptor) : Bool := d.readonly ≠ 0

/-- The URL of the backend. -/
def targetUrl (d : Descriptor) : Except Fault Url :=
  (Url.parse d.target).mapError fun fault => .invalidTarget d.target fault.message

/-- The URL of the backend of a descriptor that can be mounted. -/
def validate (d : Descriptor) : Except Fault Url := do
  let _ ← d.access
  d.targetUrl

/-! ## Mount options -/

/-- An option of a kernel mount. -/
inductive KernelOption
  | fsname (s : String)
  | subtype (s : String)
  | allowRoot
  | allowOther
  | readOnly
  deriving DecidableEq, Repr

/-- An option as it is logged. -/
def KernelOption.text : KernelOption → String
  | .fsname s => "FSName(" ++ Text.quoted s ++ ")"
  | .subtype s => "Subtype(" ++ Text.quoted s ++ ")"
  | .allowRoot => "AllowRoot"
  | .allowOther => "AllowOther"
  | .readOnly => "RO"

/-- The source name of a mount that is given none. -/
def defaultFsname : String := "fusegate"

/-- The options of a mount. -/
def options (d : Descriptor) : Except Fault (List KernelOption) := do
  let access ← d.access
  let fsname := .fsname (if d.fsname = "" then defaultFsname else d.fsname)
  let subtype := if d.subtype = "" then [] else [.subtype d.subtype]
  let allow := match access with
    | .owner => []
    | .root => [.allowRoot]
    | .other => [.allowOther]
  pure (fsname :: subtype ++ allow ++ if d.isReadOnly then [.readOnly] else [])

end Descriptor

end FsGateway.Mount
