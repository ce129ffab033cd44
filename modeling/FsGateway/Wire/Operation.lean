/-!
# Operations

The closed table of filesystem operations that the gateway forwards to a backend, in the order
in which they are registered. Each has a lowercase name, which is also the last segment of its
path on the backend.

* `ofName_name`: an operation is found again by its name.
* `mem_all`: the table is complete.
-/

namespace FsGateway.Wire

/-- A filesystem operation. -/
inductive Operation
  | init | destroy | statfs | access | getattr | setattr
  | listxattr | getxattr | setxattr | removexattr
  | lookup | openNode | create | mkdir | symlink | readlink | link | mknod | rename | remove
  | read | write | flush | fsync | release | forget | interrupt
  deriving DecidableEq, Repr

namespace Operation

/-- Every operation, in registry order. -/
def all : List Operation :=
  [.init, .destroy, .statfs, .access, .getattr, .setattr,
   .listxattr, .getxattr, .setxattr, .removexattr,
   .lookup, .openNode, .create, .mkdir, .symlink, .readlink, .link, .mknod, .rename, .remove,
   .read, .write, .flush, .fsync, .release, .forget, .interrupt]

/-- The wire name. -/
def name : Operation → String
  | init => "init" | destroy => "destroy" | statfs => "statfs" | access => "access"
  | getattr => "getattr" | setattr => "setattr" | listxattr => "listxattr"
  | getxattr => "getxattr" | setxattr => "setxattr" | removexattr => "removexattr"
  | lookup => "lookup" | openNode => "open" | create => "create" | mkdir => "mkdir"
  | symlink => "symlink" | readlink => "readlink" | link => "link" | mknod => "mknod"
  | rename => "rename" | remove => "remove" | read => "read" | write => "write"
  | flush => "flush" | fsync => "fsync" | release => "release" | forget => "forget"
  | interrupt => "interrupt"

/-- The path on the backend, such as /v1/getattr. -/
def path (op : Operation) : String := "/v1/" ++ op.name

/-- The position in registry order. -/
def index (op : Operation) : Nat := all.idxOf op

/-- Whether the operation changes the state of the filesystem. A read-only mount rejects these
without asking the backend. -/
def isMutating : Operation → Bool
  | setattr | setxattr | removexattr | create | mkdir | symlink | link | mknod | rename | remove
  | write => true
  | _ => false

/-- The operation with a given name, matched exactly. -/
def ofName? (s : String) : Option Operation := all.find? (·.name = s)

/-- The wording for a text that names no operation. -/
def refusal (s : String) : String := "unknown operation kind: " ++ s

theorem mem_all (op : Operation) : op ∈ all := by
  cases op <;> decide

/-- A property of operations is decided by going through the table. -/
instance decidableForall (p : Operation → Prop) [DecidablePred p] : Decidable (∀ op, p op) :=
  decidable_of_iff (∀ op ∈ all, p op) ⟨fun h op => h op (mem_all op), fun h op _ => h op⟩

theorem name_injective : ∀ a b : Operation, a.name = b.name → a = b := by decide

theorem ofName_name : ∀ op : Operation, ofName? op.name = some op := by decide

end Operation

end FsGateway.Wire
