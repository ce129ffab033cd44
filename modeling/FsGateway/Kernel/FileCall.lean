import FsGateway.Kernel.Callback
import FsGateway.Kernel.FileKind
import FsGateway.Kernel.Timestamp

/-!
# File calls

What programs do with a mounted filesystem arrives as file calls, with names as the bytes that the
program gave. Each is answered with a reply of its own form, or with an error number.
-/

namespace FsGateway.Kernel

/-! ## Calls -/

/-- A time to set: the present, or a given one. -/
inductive TimeChoice
  | now
  | specific (time : Timestamp)
  deriving DecidableEq, Repr

/-- The attributes to change, each if it is given. -/
structure AttributeChanges where
  mode : Option UInt32
  uid : Option UInt32
  gid : Option UInt32
  size : Option UInt64
  atime : Option TimeChoice
  mtime : Option TimeChoice
  ctime : Option Timestamp
  handle : Option UInt64
  crtime : Option Timestamp
  chgtime : Option Timestamp
  bkuptime : Option Timestamp
  flags : Option UInt32
  deriving DecidableEq, Repr

/-- A file call. Files are named by inode, or by handle once they are open. -/
inductive FileCall
  | lookup (parent : UInt64) (name : Bytes)
  /-- Lookups of some inodes are no longer remembered. -/
  | forget (nodes : List (UInt64 × UInt64))
  | getattr (inode : UInt64)
  | setattr (inode : UInt64) (changes : AttributeChanges)
  | readlink (inode : UInt64)
  | symlink (parent : UInt64) (name target : Bytes)
  | mknod (parent : UInt64) (name : Bytes) (mode umask rdev : UInt32)
  | mkdir (parent : UInt64) (name : Bytes) (mode umask : UInt32)
  | unlink (parent : UInt64) (name : Bytes)
  | rmdir (parent : UInt64) (name : Bytes)
  | rename (parent : UInt64) (name : Bytes) (newParent : UInt64) (newName : Bytes) (flags : UInt32)
  | link (inode newParent : UInt64) (newName : Bytes)
  | openFile (inode : UInt64) (flags : Int32)
  | openDirectory (inode : UInt64) (flags : Int32)
  | create (parent : UInt64) (name : Bytes) (mode umask : UInt32) (flags : Int32)
  | read (inode handle : UInt64) (offset : Int64) (size : UInt32)
  | readDirectory (inode handle : UInt64) (offset : Int64) (size : UInt32)
  | write (inode handle : UInt64) (offset : Int64) (data : Bytes) (flags : UInt32)
  | flush (inode handle lockOwner : UInt64)
  | release (inode handle : UInt64) (flags : Int32) (lockOwner : Option UInt64) (flush : Bool)
  | releaseDirectory (inode handle : UInt64) (flags : Int32)
  | sync (inode handle : UInt64) (dataOnly : Bool)
  | syncDirectory (inode handle : UInt64) (dataOnly : Bool)
  | statfs (inode : UInt64)
  | access (inode : UInt64) (mask : Int32)
  | setxattr (inode : UInt64) (name value : Bytes) (flags : Int32) (position : UInt32)
  | getxattr (inode : UInt64) (name : Bytes) (size : UInt32)
  | listxattr (inode : UInt64) (size : UInt32)
  | removexattr (inode : UInt64) (name : Bytes)
  | ioctl (inode : UInt64)
  | fallocate (inode : UInt64)
  /-- The kernel gives up the filesystem. -/
  | destroy
  deriving DecidableEq, Repr

/-! ## Replies -/

/-- The attributes of a file as a program sees them. -/
structure FileAttributes where
  inode : UInt64
  size : UInt64
  blocks : UInt64
  atime : Timestamp
  mtime : Timestamp
  ctime : Timestamp
  kind : FileKind
  permissions : UInt32
  nlink : UInt32
  uid : UInt32
  gid : UInt32
  rdev : UInt32
  blksize : UInt32
  deriving DecidableEq, Repr

namespace FileAttributes

/-- The attributes that a backend reports. -/
def ofWire (a : Wire.Attr) : FileAttributes where
  inode := a.inode
  size := a.size
  blocks := a.blocks
  atime := .ofNs a.atimeNs
  mtime := .ofNs a.mtimeNs
  ctime := .ofNs a.ctimeNs
  kind := .ofMode a.mode
  permissions := Kernel.permissions a.mode
  nlink := a.nlink
  uid := a.uid
  gid := a.gid
  rdev := a.rdev
  blksize := a.blksize

/-- The kind and the permissions in one word. -/
def mode (a : FileAttributes) : UInt32 := a.kind.modeBits ||| a.permissions

end FileAttributes

/-- A directory entry as a program sees it. It may be remembered for some nanoseconds. -/
structure FileEntry where
  generation : UInt64
  validNs : UInt64
  attributes : FileAttributes
  deriving DecidableEq, Repr

/-- The entry that a backend reports. The inode of the entry counts, not that of its attributes. -/
def FileEntry.ofWire (e : Wire.EntryResponse) : FileEntry where
  generation := e.generation
  validNs := e.entryValidNs
  attributes := { FileAttributes.ofWire e.attr with inode := e.inode }

/-- The reply to a file call. -/
inductive FileReply
  | error (errno : Errno)
  | done
  | entry (e : FileEntry)
  | attributes (validNs : UInt64) (a : FileAttributes)
  | opened (handle : UInt64) (flags : UInt32)
  | created (e : FileEntry) (handle : UInt64) (flags : UInt32)
  | data (content : Bytes)
  | written (size : UInt32)
  | length (size : UInt32)
  | volume (s : Wire.StatfsResponse)
  deriving DecidableEq

end FsGateway.Kernel
