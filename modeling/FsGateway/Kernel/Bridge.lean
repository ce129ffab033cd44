import FsGateway.Kernel.DirectoryEntry
import FsGateway.Kernel.FileCall

/-!
# From file calls to operations

Most file calls become one operation each, whose response makes the reply. A call with a name that
is no text is refused.

* `FileCall.plan`: what becomes of a file call.
* `AttributeChanges.request`: the request that changes attributes.
* `Limits.negotiate`: the limits that are agreed upon when a filesystem is mounted.
* `Bridge`: passes file calls on. `Volume`: what the kernel keeps of a filesystem over its bridge.
-/

namespace FsGateway.Kernel

open Wire

/-! ## Plans -/

/-- What becomes of a file call. -/
inductive Plan
  /-- It is refused. -/
  | refuse (errno : Errno)
  /-- It becomes an operation, whose response makes the reply. -/
  | ask (op : Operation) (payload : op.Request) (respond : op.Response → FileReply)
  /-- There is no operation for it. It fails whatever the answer. -/
  | askUnsupported (opcode : String)
  /-- Operations are told about it. Nobody waits for a reply. -/
  | tell (nodes : List (UInt64 × UInt64))
  /-- The filesystem is given up. The operation has no caller, and nobody waits for it. -/
  | dismiss

/-- The header of callbacks that no process caused. -/
def Header.none : Header := ⟨0, ⟨0, 0, 0⟩⟩

namespace Plan

/-- The callbacks of a plan. -/
def callbacks (h : Header) : Plan → List Callback
  | refuse _ => []
  | ask op payload _ => [⟨h, .operation op payload⟩]
  | askUnsupported opcode => [⟨h, .unsupported opcode⟩]
  | tell nodes => nodes.map fun n => ⟨h, .operation .forget (⟨n.1, n.2⟩ : ForgetRequest)⟩
  | dismiss => [⟨.none, .operation .destroy (⟨⟩ : NoBody)⟩]

/-- The reply for the answer to the callback of a plan, if anyone waits for one. -/
def reply (answer : Answer) : Plan → Option FileReply
  | refuse errno => some (.error errno)
  | ask op _ respond =>
    match answer with
    | .error errno => some (.error errno)
    | .ok values =>
      match Record.unflatten (R := op.Response) values with
      | .ok (response, _) => some (respond response)
      | .error _ => some (.error Errno.eio)
  | askUnsupported _ =>
    match answer with
    | .error errno => some (.error errno)
    | .ok _ => some (.error Errno.enosys)
  | tell _ => none
  | dismiss => some .done

/-- A plan that depends on a name, which must be text. -/
def named (name : Bytes) (plan : String → Plan) : Plan :=
  match Text.decode? name with
  | some s => plan s
  | none => refuse Errno.einval

end Plan

/-! ## Changing attributes -/

/-! The bits that say which fields of a request to change attributes count. -/

namespace AttributeChanges.Bit

def mode : UInt32 := 0x1
def uid : UInt32 := 0x2
def gid : UInt32 := 0x4
def size : UInt32 := 0x8
def atime : UInt32 := 0x10
def mtime : UInt32 := 0x20
def handle : UInt32 := 0x40
def atimeNow : UInt32 := 0x80
def mtimeNow : UInt32 := 0x100
def crtime : UInt32 := 0x10000000
def chgtime : UInt32 := 0x20000000
def bkuptime : UInt32 := 0x40000000
def flags : UInt32 := 0x80000000

end AttributeChanges.Bit

/-- What the clock shows. It is read anew for each of the times that can be set to the present. -/
structure Clock where
  atime : Timestamp
  mtime : Timestamp
  deriving DecidableEq, Repr

/-- A clock that shows one time whenever it is read. -/
def Clock.still (t : Timestamp) : Clock := ⟨t, t⟩

namespace AttributeChanges

/-- A bit, if something is given. -/
def bit {α : Type} (b : UInt32) (o : Option α) : UInt32 := if o.isSome then b else 0

/-- A bit, if the present is asked for. -/
def nowBit (b : UInt32) (o : Option TimeChoice) : UInt32 := if o = some .now then b else 0

/-- The word of a time to set. -/
def timeNs (present : Timestamp) : TimeChoice → Int64
  | .now => present.toNs
  | .specific time => time.toNs

/-- The word of a time, if it is given. -/
def givenNs (o : Option Timestamp) : Int64 := (o.map Timestamp.toNs).getD 0

/-- The bits of the attributes that are given. -/
def valid (c : AttributeChanges) : UInt32 :=
  bit Bit.mode c.mode ||| bit Bit.uid c.uid ||| bit Bit.gid c.gid ||| bit Bit.size c.size
    ||| bit Bit.atime c.atime ||| nowBit Bit.atimeNow c.atime
    ||| bit Bit.mtime c.mtime ||| nowBit Bit.mtimeNow c.mtime
    ||| bit Bit.handle c.handle ||| bit Bit.crtime c.crtime ||| bit Bit.chgtime c.chgtime
    ||| bit Bit.bkuptime c.bkuptime ||| bit Bit.flags c.flags

/-- The request that changes attributes, by the clock. -/
def request (clock : Clock) (c : AttributeChanges) : SetattrRequest where
  valid := c.valid
  handle := c.handle.getD 0
  size := c.size.getD 0
  atimeNs := (c.atime.map (timeNs clock.atime)).getD 0
  mtimeNs := (c.mtime.map (timeNs clock.mtime)).getD 0
  mode := c.mode.getD 0
  uid := c.uid.getD 0
  gid := c.gid.getD 0
  bkuptimeNs := givenNs c.bkuptime
  chgtimeNs := givenNs c.chgtime
  crtimeNs := givenNs c.crtime
  flags := c.flags.getD 0

end AttributeChanges

/-! ## File calls -/

namespace FileCall

/-- How many bytes of a directory are asked for at once. -/
def directoryChunk : UInt32 := 4096

/-- The flag of a release that flushes the file. -/
def releaseFlush : UInt32 := 1

/-- The reply of an operation that has nothing to report. -/
def acknowledge (_ : NoBody) : FileReply := .done

/-- The reply with an entry. -/
def entry (e : EntryResponse) : FileReply := .entry (.ofWire e)

/-- The reply with attributes. -/
def attributes (r : AttrResponse) : FileReply := .attributes r.attr.validNs (.ofWire r.attr)

/-- The reply with an extended attribute for a caller with some room. Without room, the caller asks
for the length. -/
def sized (room : UInt32) (content : Bytes) : FileReply :=
  if room = 0 then .length (UInt32.ofNat content.length)
  else if room.toNat < content.length then .error Errno.erange
  else .data content

/-- The entries at the start of a list that fit into some room, as bytes. -/
def fill : (room : Nat) → List DirectoryEntry → Bytes
  | _, [] => []
  | room, e :: es =>
    let b := e.encode
    if b.length ≤ room then b ++ fill (room - b.length) es else []

/-- The mode of a new file: without the bits of the mask. -/
def masked (mode umask : UInt32) : UInt32 := mode &&& ~~~umask

/-- What becomes of a file call, by the clock. -/
def plan (clock : Clock) : FileCall → Plan
  | lookup parent name => .named name fun name => .ask .lookup (⟨parent, name⟩ : LookupRequest) entry
  | forget nodes => .tell nodes
  | getattr inode => .ask .getattr (⟨inode⟩ : GetattrRequest) attributes
  | setattr _ changes => .ask .setattr (changes.request clock) attributes
  | readlink inode =>
    .ask .readlink (⟨inode⟩ : ReadlinkRequest) fun r => .data (Text.encode (ReadlinkResponse.target r))
  | symlink parent name target =>
    .named name fun name => .named target fun target =>
      .ask .symlink (⟨parent, name, target⟩ : SymlinkRequest) entry
  | mknod parent name mode umask rdev =>
    .named name fun name =>
      .ask .mknod (⟨parent, masked mode umask, rdev, name⟩ : MknodRequest) entry
  | mkdir parent name mode umask =>
    .named name fun name => .ask .mkdir (⟨parent, masked mode umask, name⟩ : MkdirRequest) entry
  | unlink parent name =>
    .named name fun name => .ask .remove (⟨parent, false, name⟩ : RemoveRequest) acknowledge
  | rmdir parent name =>
    .named name fun name => .ask .remove (⟨parent, true, name⟩ : RemoveRequest) acknowledge
  | rename parent name newParent newName _ =>
    .named name fun name => .named newName fun newName =>
      .ask .rename (⟨parent, newParent, name, newName⟩ : RenameRequest) acknowledge
  | link inode newParent newName =>
    .named newName fun newName => .ask .link (⟨newParent, inode, newName⟩ : LinkRequest) entry
  | openFile inode flags =>
    .ask .openNode (⟨inode, flags.toUInt32, false⟩ : OpenRequest) fun (r : OpenResponse) =>
      .opened r.handle r.flags
  | openDirectory inode flags =>
    .ask .openNode (⟨inode, flags.toUInt32, true⟩ : OpenRequest) fun (r : OpenResponse) =>
      .opened r.handle r.flags
  | create parent name mode umask flags =>
    .named name fun name =>
      .ask .create (⟨parent, flags.toUInt32, masked mode umask, name⟩ : CreateRequest)
        fun (r : CreateResponse) => .created (.ofWire r.entry) r.handle r.openFlags
  | read _ handle offset size =>
    .ask .read (⟨handle, offset, size, false⟩ : ReadRequest) fun (r : ReadResponse) => .data r.data
  | readDirectory _ handle offset size =>
    .ask .read (⟨handle, offset, directoryChunk, true⟩ : ReadRequest) fun (r : ReadResponse) =>
      .data (fill size.toNat (DirectoryEntry.parse r.data))
  | write _ handle offset data flags =>
    .ask .write (⟨handle, offset, flags, data⟩ : WriteRequest) fun (r : WriteResponse) =>
      .written r.size
  | flush _ handle lockOwner =>
    .ask .flush (⟨handle, lockOwner, 0⟩ : FlushRequest) acknowledge
  | release _ handle flags lockOwner isFlushed =>
    .ask .release
      (⟨handle, flags.toUInt32, if isFlushed then releaseFlush else 0, lockOwner.getD 0, false⟩ :
        ReleaseRequest) acknowledge
  | releaseDirectory _ handle flags =>
    .ask .release (⟨handle, flags.toUInt32, 0, 0, true⟩ : ReleaseRequest) acknowledge
  | sync _ handle dataOnly =>
    .ask .fsync (⟨handle, if dataOnly then 1 else 0, false⟩ : FsyncRequest) acknowledge
  | syncDirectory _ handle dataOnly =>
    .ask .fsync (⟨handle, if dataOnly then 1 else 0, true⟩ : FsyncRequest) acknowledge
  | statfs _ => .ask .statfs (⟨⟩ : NoBody) FileReply.volume
  | access inode mask => .ask .access (⟨inode, mask.toUInt32⟩ : AccessRequest) acknowledge
  | setxattr inode name value flags position =>
    .named name fun name =>
      .ask .setxattr (⟨inode, flags.toUInt32, position, name, value⟩ : SetxattrRequest) acknowledge
  | getxattr inode name size =>
    .named name fun name =>
      .ask .getxattr (⟨inode, size, 0, name⟩ : GetxattrRequest) fun (r : GetxattrResponse) =>
        sized size r.value
  | listxattr inode size =>
    .ask .listxattr (⟨inode, size, 0⟩ : ListxattrRequest) fun (r : ListxattrResponse) =>
      sized size r.names
  | removexattr inode name =>
    .named name fun name => .ask .removexattr (⟨inode, name⟩ : RemovexattrRequest) acknowledge
  | ioctl _ => .askUnsupported "ioctl"
  | fallocate _ => .askUnsupported "fallocate"
  | destroy => .dismiss

end FileCall

/-! ## The first call -/

/-- The limits of a mounted filesystem. -/
structure Limits where
  maxReadahead : UInt32
  maxWrite : UInt32
  deriving DecidableEq, Repr

namespace Limits

/-- The limits that the kernel offers. -/
def offered (maxReadahead : UInt32) : Limits := ⟨maxReadahead, 16777216⟩

/-- The limit nearest to the one that is asked for. Nothing is asked for by 0. -/
def agree (offer wish : UInt32) : UInt32 := if wish = 0 then offer else min wish offer

/-- The limits that are agreed upon with a backend. -/
def negotiate (offer : Limits) (r : InitResponse) : Limits :=
  ⟨agree offer.maxReadahead r.maxReadahead, agree offer.maxWrite r.maxWrite⟩

/-- The limits after the answer to the first request, if the filesystem is not refused. -/
def ofAnswer (offer : Limits) (answer : Answer) : Except Errno Limits :=
  match answer with
  | .error errno => .error errno
  | .ok values =>
    match Record.unflatten (R := InitResponse) values with
    | .ok (response, _) => .ok (offer.negotiate response)
    | .error _ => .error Errno.eio

/-- The first request to a backend: the version of the kernel's interface, and no wishes. -/
def request : InitRequest := ⟨7, 40, 0, 0⟩

end Limits

/-! ## The bridge -/

/-- A bridge between the kernel and a session. It remembers nothing of the file calls. -/
structure Bridge where
  /-- Whether anyone receives callbacks. -/
  isOpen : Bool
  deriving DecidableEq, Repr

namespace Bridge

/-- A bridge to a session that has just begun. -/
def start : Bridge := ⟨true⟩

/-- The callbacks that are received for a plan. -/
def callbacks (b : Bridge) (h : Header) (p : Plan) : List Callback :=
  if b.isOpen then p.callbacks h else []

end Bridge

/-! ## The volume -/

/-- A filesystem that the kernel has mounted over a bridge. File calls go to the bridge until the
kernel gives up the filesystem. From then on they are refused before they come to it. -/
structure Volume where
  bridge : Bridge
  /-- Whether the kernel has given up the filesystem. -/
  isDestroyed : Bool
  deriving DecidableEq, Repr

namespace Volume

/-- A volume that has just been mounted. -/
def start : Volume := ⟨.start, false⟩

/-- What becomes of a file call. A volume that was given up refuses all but being given up again. -/
def plan (v : Volume) (clock : Clock) (c : FileCall) : Plan :=
  if v.isDestroyed && c ≠ .destroy then .refuse Errno.eio else c.plan clock

/-- The volume after a file call. -/
def after (v : Volume) (c : FileCall) : Volume :=
  if c = .destroy then { v with isDestroyed := true } else v

/-- The callbacks that are received when the kernel closes a volume. -/
def closing (v : Volume) : List Callback :=
  if v.isDestroyed then [] else v.bridge.callbacks .none .dismiss

end Volume

end FsGateway.Kernel
