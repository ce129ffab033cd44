import FsGateway.Gateway.Manager
import FsGateway.Gateway.MediaType

/-!
# The admin interface

Mounts are listed, added and removed over HTTP. A request is turned away, or it asks for the list
of mounts or for an operation of the manager, whose result makes the reply.

* `Action.ofRequest`: what a request asks for.
* `Action.reply?`, `Action.event?`: the reply at once, or the operation.
* `Reply.ofResult`: the reply for the result of an operation.
-/

namespace FsGateway.Gateway.Admin

open Mount (Path Descriptor Fault Problem)

/-- A reply, with a JSON body or without one. Bodies of requests that are turned away are not part
of the interface. -/
structure Reply where
  status : Nat
  body : Option Json.Node

/-- What a request asks for. -/
inductive Action
  /-- Nothing: it is answered with a status. -/
  | turnAway (status : Nat)
  /-- The list of mounts. -/
  | list
  /-- Whether there is a list of mounts. -/
  | probe
  | mount (descriptor : Descriptor)
  | unmount (point : Path)

/-- The body of a request to unmount. -/
def unmountSchema : Json.Schema Json.DocumentType := .field "mountpoint" .text none .done

/-- The mount point of a JSON node. -/
def pointOfNode (n : Json.Node) : Except Json.Fault Path :=
  (unmountSchema.ofNode n).map fun t => ⟨t.1⟩

/-- The status for a body that cannot be read. -/
def faultStatus : Json.Fault → Nat
  | .malformed => 400
  | .mismatch => 422

/-- The greatest number of bytes that a body may have. -/
def bodyLimit : Nat := 2097152

/-- What a request with a JSON body asks for. A body that is too long is not looked at. -/
def Action.ofBody {α : Type} (contentType : Option String) (body : Bytes)
    (read : Json.Node → Except Json.Fault α) (action : α → Action) : Action :=
  if contentType.any MediaType.isJson then
    if bodyLimit < body.length then .turnAway 413
    else
      match Json.readDocument read body with
      | .ok a => action a
      | .error fault => .turnAway (faultStatus fault)
  else .turnAway 415

/-- Whether a character ends the path of a request target. -/
def endsPath (c : Char) : Bool := c = '?' || c = '#'

/-- The characters after the two slashes behind a scheme, if there is a scheme. -/
def afterScheme? (cs : List Char) : Option (List Char) :=
  match cs with
  | ':' :: '/' :: '/' :: rest => some rest
  | [] | '/' :: _ => none
  | _ :: rest => afterScheme? rest

/-- The path of a request target, without the query. A target that starts with a scheme and an
authority has the path after them, which is a slash if nothing is there. -/
def pathOf (target : String) : String :=
  match afterScheme? target.toList with
  | none => String.ofList (target.toList.takeWhile (!endsPath ·))
  | some rest =>
    match (rest.dropWhile fun c => c ≠ '/' && !endsPath c).takeWhile (!endsPath ·) with
    | [] => "/"
    | path => String.ofList path

/-- What a request asks for. -/
def Action.ofRequest (method target : String) (contentType : Option String) (body : Bytes) :
    Action :=
  if pathOf target = "/v1/mounts" then
    if method = "GET" then .list else if method = "HEAD" then .probe else .turnAway 405
  else if pathOf target = "/v1/mount" then
    if method = "POST" then .ofBody contentType body Descriptor.ofNode .mount else .turnAway 405
  else if pathOf target = "/v1/unmount" then
    if method = "POST" then .ofBody contentType body pointOfNode .unmount else .turnAway 405
  else .turnAway 404

/-- The list of mounts: each descriptor with a member that says whether it is being served. -/
def listNode (statuses : List (Descriptor × Bool)) : Json.Node :=
  .array (statuses.map fun s =>
    .object (Descriptor.schema.toMembers s.1.toTuple ++ [(Json.Text.raw "serving", .bool s.2)])
      true) true

namespace Reply

/-- The reply for a fault: the problem as its body, under the status of the problem. -/
def ofFault (f : Fault) : Reply :=
  let p := Problem.ofFault f
  ⟨p.status, some p.toNode⟩

/-- The reply for the result of an operation. -/
def ofResult : Except Fault Done → Reply
  | .ok _ => ⟨200, none⟩
  | .error fault => ofFault fault

end Reply

namespace Action

/-- The reply of a request that needs no operation. -/
def reply? {σ : Type} (m : Manager σ) : Action → Option Reply
  | turnAway status => some ⟨status, none⟩
  | list => some ⟨200, some (listNode m.statuses)⟩
  | probe => some ⟨200, none⟩
  | mount _ | unmount _ => none

/-- The operation that a request begins. -/
def event? (task : TaskId) : Action → Option ManagerEvent
  | mount d => some (.mount task d)
  | unmount p => some (.unmount task p)
  | turnAway _ | list | probe => none

end Action

end FsGateway.Gateway.Admin
