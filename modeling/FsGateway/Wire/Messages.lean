import FsGateway.Wire.Record

/-!
# Messages

The request and response records of the operations, with their fields in wire order.

* `Operation.Request`, `Operation.Response`: the record types of an operation.
-/

namespace FsGateway.Wire

/-! ## Schemas -/

namespace Schema

/-- A truth value and the fields after it. -/
abbrev bool (name : String) (rest : Schema) : Schema := .field name (.fixed .bool) none rest

/-- A word of 32 bits and the fields after it. -/
abbrev u32 (name : String) (rest : Schema) : Schema := .field name (.fixed .u32) none rest

/-- A word of 64 bits and the fields after it. -/
abbrev u64 (name : String) (rest : Schema) : Schema := .field name (.fixed .u64) none rest

/-- A signed word of 64 bits and the fields after it. -/
abbrev i64 (name : String) (rest : Schema) : Schema := .field name (.fixed .i64) none rest

/-- A text and the fields after it. -/
abbrev text (name : String) (rest : Schema) : Schema := .field name (.varying .text) none rest

/-- A byte string and the fields after it. -/
abbrev blob (name : String) (rest : Schema) : Schema := .field name (.varying .blob) none rest

/-- No more fields. -/
abbrev done : Schema := Json.Schema.done

end Schema

/-! ## Records -/

/-- The record without fields, for operations that carry nothing. -/
structure NoBody where
  deriving DecidableEq

instance : Record NoBody where
  name := "NoBody"
  schema :=
    Schema.done
  toTuple _ := ()
  ofTuple _ := ⟨⟩
  ofTuple_toTuple _ := rfl
  toTuple_ofTuple _ := rfl

/-- The attributes of a file. Times are in nanoseconds since the epoch; `validNs` says how long the
attributes may be cached. -/
structure Attr where
  validNs : UInt64
  inode : UInt64
  size : UInt64
  blocks : UInt64
  atimeNs : Int64
  mtimeNs : Int64
  ctimeNs : Int64
  crtimeNs : Int64
  mode : UInt32
  nlink : UInt32
  uid : UInt32
  gid : UInt32
  rdev : UInt32
  flags : UInt32
  blksize : UInt32
  deriving DecidableEq

instance : Record Attr where
  name := "Attr"
  schema :=
    Schema.u64 "valid_ns" <| Schema.u64 "inode" <| Schema.u64 "size" <| Schema.u64 "blocks" <|
    Schema.i64 "atime_ns" <| Schema.i64 "mtime_ns" <| Schema.i64 "ctime_ns" <|
    Schema.i64 "crtime_ns" <| Schema.u32 "mode" <| Schema.u32 "nlink" <| Schema.u32 "uid" <|
    Schema.u32 "gid" <| Schema.u32 "rdev" <| Schema.u32 "flags" <| Schema.u32 "blksize" <|
    Schema.done
  toTuple r :=
    (r.validNs, r.inode, r.size, r.blocks, r.atimeNs, r.mtimeNs, r.ctimeNs, r.crtimeNs, r.mode,
     r.nlink, r.uid, r.gid, r.rdev, r.flags, r.blksize, ())
  ofTuple := fun
    | (validNs, inode, size, blocks, atimeNs, mtimeNs, ctimeNs, crtimeNs, mode, nlink, uid, gid,
       rdev, flags, blksize, ()) =>
      ⟨validNs, inode, size, blocks, atimeNs, mtimeNs, ctimeNs, crtimeNs, mode, nlink, uid, gid,
       rdev, flags, blksize⟩
  ofTuple_toTuple _ := rfl
  toTuple_ofTuple _ := rfl

/-- The kernel's version and limits, sent before any other request. -/
structure InitRequest where
  major : UInt32
  minor : UInt32
  maxReadahead : UInt32
  flags : UInt32
  deriving DecidableEq

instance : Record InitRequest where
  name := "InitRequest"
  schema :=
    Schema.u32 "major" <| Schema.u32 "minor" <| Schema.u32 "max_readahead" <|
    Schema.u32 "flags" <| Schema.done
  toTuple r :=
    (r.major, r.minor, r.maxReadahead, r.flags, ())
  ofTuple := fun
    | (major, minor, maxReadahead, flags, ()) =>
      ⟨major, minor, maxReadahead, flags⟩
  ofTuple_toTuple _ := rfl
  toTuple_ofTuple _ := rfl

/-- The limits that the backend asks for. -/
structure InitResponse where
  maxReadahead : UInt32
  flags : UInt32
  maxWrite : UInt32
  deriving DecidableEq

instance : Record InitResponse where
  name := "InitResponse"
  schema :=
    Schema.u32 "max_readahead" <| Schema.u32 "flags" <| Schema.u32 "max_write" <| Schema.done
  toTuple r :=
    (r.maxReadahead, r.flags, r.maxWrite, ())
  ofTuple := fun
    | (maxReadahead, flags, maxWrite, ()) =>
      ⟨maxReadahead, flags, maxWrite⟩
  ofTuple_toTuple _ := rfl
  toTuple_ofTuple _ := rfl

/-- The state of the whole filesystem. -/
structure StatfsResponse where
  blocks : UInt64
  bfree : UInt64
  bavail : UInt64
  files : UInt64
  ffree : UInt64
  bsize : UInt32
  namelen : UInt32
  frsize : UInt32
  deriving DecidableEq

instance : Record StatfsResponse where
  name := "StatfsResponse"
  schema :=
    Schema.u64 "blocks" <| Schema.u64 "bfree" <| Schema.u64 "bavail" <| Schema.u64 "files" <|
    Schema.u64 "ffree" <| Schema.u32 "bsize" <| Schema.u32 "namelen" <| Schema.u32 "frsize" <|
    Schema.done
  toTuple r :=
    (r.blocks, r.bfree, r.bavail, r.files, r.ffree, r.bsize, r.namelen, r.frsize, ())
  ofTuple := fun
    | (blocks, bfree, bavail, files, ffree, bsize, namelen, frsize, ()) =>
      ⟨blocks, bfree, bavail, files, ffree, bsize, namelen, frsize⟩
  ofTuple_toTuple _ := rfl
  toTuple_ofTuple _ := rfl

/-- Asks whether a file may be accessed. -/
structure AccessRequest where
  inode : UInt64
  mask : UInt32
  deriving DecidableEq

instance : Record AccessRequest where
  name := "AccessRequest"
  schema :=
    Schema.u64 "inode" <| Schema.u32 "mask" <| Schema.done
  toTuple r :=
    (r.inode, r.mask, ())
  ofTuple := fun
    | (inode, mask, ()) =>
      ⟨inode, mask⟩
  ofTuple_toTuple _ := rfl
  toTuple_ofTuple _ := rfl

/-- Asks for the attributes of a file. -/
structure GetattrRequest where
  inode : UInt64
  deriving DecidableEq

instance : Record GetattrRequest where
  name := "GetattrRequest"
  schema :=
    Schema.u64 "inode" <| Schema.done
  toTuple r :=
    (r.inode, ())
  ofTuple := fun
    | (inode, ()) =>
      ⟨inode⟩
  ofTuple_toTuple _ := rfl
  toTuple_ofTuple _ := rfl

/-- The attributes of a file. -/
structure AttrResponse where
  attr : Attr
  deriving DecidableEq

instance : Record AttrResponse where
  name := "AttrResponse"
  schema :=
    .nested "attr" (Record.schema Attr) <| Schema.done
  toTuple r :=
    (Record.toTuple r.attr, ())
  ofTuple := fun
    | (attr, ()) =>
      ⟨Record.ofTuple attr⟩
  ofTuple_toTuple _ := rfl
  toTuple_ofTuple _ := rfl

/-- Changes those attributes whose bit is set in `valid`. -/
structure SetattrRequest where
  valid : UInt32
  handle : UInt64
  size : UInt64
  atimeNs : Int64
  mtimeNs : Int64
  mode : UInt32
  uid : UInt32
  gid : UInt32
  bkuptimeNs : Int64
  chgtimeNs : Int64
  crtimeNs : Int64
  flags : UInt32
  deriving DecidableEq

instance : Record SetattrRequest where
  name := "SetattrRequest"
  schema :=
    Schema.u32 "valid" <| Schema.u64 "handle" <| Schema.u64 "size" <| Schema.i64 "atime_ns" <|
    Schema.i64 "mtime_ns" <| Schema.u32 "mode" <| Schema.u32 "uid" <| Schema.u32 "gid" <|
    Schema.i64 "bkuptime_ns" <| Schema.i64 "chgtime_ns" <| Schema.i64 "crtime_ns" <|
    Schema.u32 "flags" <| Schema.done
  toTuple r :=
    (r.valid, r.handle, r.size, r.atimeNs, r.mtimeNs, r.mode, r.uid, r.gid, r.bkuptimeNs,
     r.chgtimeNs, r.crtimeNs, r.flags, ())
  ofTuple := fun
    | (valid, handle, size, atimeNs, mtimeNs, mode, uid, gid, bkuptimeNs, chgtimeNs, crtimeNs,
       flags, ()) =>
      ⟨valid, handle, size, atimeNs, mtimeNs, mode, uid, gid, bkuptimeNs, chgtimeNs, crtimeNs,
       flags⟩
  ofTuple_toTuple _ := rfl
  toTuple_ofTuple _ := rfl

/-- Asks for the names of the extended attributes. -/
structure ListxattrRequest where
  inode : UInt64
  size : UInt32
  position : UInt32
  deriving DecidableEq

instance : Record ListxattrRequest where
  name := "ListxattrRequest"
  schema :=
    Schema.u64 "inode" <| Schema.u32 "size" <| Schema.u32 "position" <| Schema.done
  toTuple r :=
    (r.inode, r.size, r.position, ())
  ofTuple := fun
    | (inode, size, position, ()) =>
      ⟨inode, size, position⟩
  ofTuple_toTuple _ := rfl
  toTuple_ofTuple _ := rfl

/-- The names of the extended attributes, each followed by a zero byte. -/
structure ListxattrResponse where
  names : Bytes
  deriving DecidableEq

instance : Record ListxattrResponse where
  name := "ListxattrResponse"
  schema :=
    Schema.blob "names" <| Schema.done
  toTuple r :=
    (r.names, ())
  ofTuple := fun
    | (names, ()) =>
      ⟨names⟩
  ofTuple_toTuple _ := rfl
  toTuple_ofTuple _ := rfl

/-- Asks for the value of an extended attribute. -/
structure GetxattrRequest where
  inode : UInt64
  size : UInt32
  position : UInt32
  name : String
  deriving DecidableEq

instance : Record GetxattrRequest where
  name := "GetxattrRequest"
  schema :=
    Schema.u64 "inode" <| Schema.u32 "size" <| Schema.u32 "position" <| Schema.text "name" <|
    Schema.done
  toTuple r :=
    (r.inode, r.size, r.position, r.name, ())
  ofTuple := fun
    | (inode, size, position, name, ()) =>
      ⟨inode, size, position, name⟩
  ofTuple_toTuple _ := rfl
  toTuple_ofTuple _ := rfl

/-- The value of an extended attribute. -/
structure GetxattrResponse where
  value : Bytes
  deriving DecidableEq

instance : Record GetxattrResponse where
  name := "GetxattrResponse"
  schema :=
    Schema.blob "value" <| Schema.done
  toTuple r :=
    (r.value, ())
  ofTuple := fun
    | (value, ()) =>
      ⟨value⟩
  ofTuple_toTuple _ := rfl
  toTuple_ofTuple _ := rfl

/-- Sets an extended attribute. -/
structure SetxattrRequest where
  inode : UInt64
  flags : UInt32
  position : UInt32
  name : String
  value : Bytes
  deriving DecidableEq

instance : Record SetxattrRequest where
  name := "SetxattrRequest"
  schema :=
    Schema.u64 "inode" <| Schema.u32 "flags" <| Schema.u32 "position" <| Schema.text "name" <|
    Schema.blob "value" <| Schema.done
  toTuple r :=
    (r.inode, r.flags, r.position, r.name, r.value, ())
  ofTuple := fun
    | (inode, flags, position, name, value, ()) =>
      ⟨inode, flags, position, name, value⟩
  ofTuple_toTuple _ := rfl
  toTuple_ofTuple _ := rfl

/-- Removes an extended attribute. -/
structure RemovexattrRequest where
  inode : UInt64
  name : String
  deriving DecidableEq

instance : Record RemovexattrRequest where
  name := "RemovexattrRequest"
  schema :=
    Schema.u64 "inode" <| Schema.text "name" <| Schema.done
  toTuple r :=
    (r.inode, r.name, ())
  ofTuple := fun
    | (inode, name, ()) =>
      ⟨inode, name⟩
  ofTuple_toTuple _ := rfl
  toTuple_ofTuple _ := rfl

/-- Asks for a directory entry. -/
structure LookupRequest where
  inode : UInt64
  name : String
  deriving DecidableEq

instance : Record LookupRequest where
  name := "LookupRequest"
  schema :=
    Schema.u64 "inode" <| Schema.text "name" <| Schema.done
  toTuple r :=
    (r.inode, r.name, ())
  ofTuple := fun
    | (inode, name, ()) =>
      ⟨inode, name⟩
  ofTuple_toTuple _ := rfl
  toTuple_ofTuple _ := rfl

/-- A directory entry with the attributes of its file. -/
structure EntryResponse where
  inode : UInt64
  generation : UInt64
  entryValidNs : UInt64
  attr : Attr
  deriving DecidableEq

instance : Record EntryResponse where
  name := "EntryResponse"
  schema :=
    Schema.u64 "inode" <| Schema.u64 "generation" <| Schema.u64 "entry_valid_ns" <|
    .nested "attr" (Record.schema Attr) <| Schema.done
  toTuple r :=
    (r.inode, r.generation, r.entryValidNs, Record.toTuple r.attr, ())
  ofTuple := fun
    | (inode, generation, entryValidNs, attr, ()) =>
      ⟨inode, generation, entryValidNs, Record.ofTuple attr⟩
  ofTuple_toTuple _ := rfl
  toTuple_ofTuple _ := rfl

/-- Opens a file or a directory. -/
structure OpenRequest where
  inode : UInt64
  flags : UInt32
  dir : Bool
  deriving DecidableEq

instance : Record OpenRequest where
  name := "OpenRequest"
  schema :=
    Schema.u64 "inode" <| Schema.u32 "flags" <| Schema.bool "dir" <| Schema.done
  toTuple r :=
    (r.inode, r.flags, r.dir, ())
  ofTuple := fun
    | (inode, flags, dir, ()) =>
      ⟨inode, flags, dir⟩
  ofTuple_toTuple _ := rfl
  toTuple_ofTuple _ := rfl

/-- The handle of an open file. -/
structure OpenResponse where
  handle : UInt64
  flags : UInt32
  deriving DecidableEq

instance : Record OpenResponse where
  name := "OpenResponse"
  schema :=
    Schema.u64 "handle" <| Schema.u32 "flags" <| Schema.done
  toTuple r :=
    (r.handle, r.flags, ())
  ofTuple := fun
    | (handle, flags, ()) =>
      ⟨handle, flags⟩
  ofTuple_toTuple _ := rfl
  toTuple_ofTuple _ := rfl

/-- Creates a file and opens it. -/
structure CreateRequest where
  inode : UInt64
  flags : UInt32
  mode : UInt32
  name : String
  deriving DecidableEq

instance : Record CreateRequest where
  name := "CreateRequest"
  schema :=
    Schema.u64 "inode" <| Schema.u32 "flags" <| Schema.u32 "mode" <| Schema.text "name" <|
    Schema.done
  toTuple r :=
    (r.inode, r.flags, r.mode, r.name, ())
  ofTuple := fun
    | (inode, flags, mode, name, ()) =>
      ⟨inode, flags, mode, name⟩
  ofTuple_toTuple _ := rfl
  toTuple_ofTuple _ := rfl

/-- The entry of a new file and its handle. -/
structure CreateResponse where
  entry : EntryResponse
  handle : UInt64
  openFlags : UInt32
  deriving DecidableEq

instance : Record CreateResponse where
  name := "CreateResponse"
  schema :=
    .nested "entry" (Record.schema EntryResponse) <| Schema.u64 "handle" <|
    Schema.u32 "open_flags" <| Schema.done
  toTuple r :=
    (Record.toTuple r.entry, r.handle, r.openFlags, ())
  ofTuple := fun
    | (entry, handle, openFlags, ()) =>
      ⟨Record.ofTuple entry, handle, openFlags⟩
  ofTuple_toTuple _ := rfl
  toTuple_ofTuple _ := rfl

/-- Creates a directory. -/
structure MkdirRequest where
  inode : UInt64
  mode : UInt32
  name : String
  deriving DecidableEq

instance : Record MkdirRequest where
  name := "MkdirRequest"
  schema :=
    Schema.u64 "inode" <| Schema.u32 "mode" <| Schema.text "name" <| Schema.done
  toTuple r :=
    (r.inode, r.mode, r.name, ())
  ofTuple := fun
    | (inode, mode, name, ()) =>
      ⟨inode, mode, name⟩
  ofTuple_toTuple _ := rfl
  toTuple_ofTuple _ := rfl

/-- Creates a symbolic link. -/
structure SymlinkRequest where
  inode : UInt64
  newName : String
  target : String
  deriving DecidableEq

instance : Record SymlinkRequest where
  name := "SymlinkRequest"
  schema :=
    Schema.u64 "inode" <| Schema.text "new_name" <| Schema.text "target" <| Schema.done
  toTuple r :=
    (r.inode, r.newName, r.target, ())
  ofTuple := fun
    | (inode, newName, target, ()) =>
      ⟨inode, newName, target⟩
  ofTuple_toTuple _ := rfl
  toTuple_ofTuple _ := rfl

/-- Asks for the target of a symbolic link. -/
structure ReadlinkRequest where
  inode : UInt64
  deriving DecidableEq

instance : Record ReadlinkRequest where
  name := "ReadlinkRequest"
  schema :=
    Schema.u64 "inode" <| Schema.done
  toTuple r :=
    (r.inode, ())
  ofTuple := fun
    | (inode, ()) =>
      ⟨inode⟩
  ofTuple_toTuple _ := rfl
  toTuple_ofTuple _ := rfl

/-- The target of a symbolic link. -/
structure ReadlinkResponse where
  target : String
  deriving DecidableEq

instance : Record ReadlinkResponse where
  name := "ReadlinkResponse"
  schema :=
    Schema.text "target" <| Schema.done
  toTuple r :=
    (r.target, ())
  ofTuple := fun
    | (target, ()) =>
      ⟨target⟩
  ofTuple_toTuple _ := rfl
  toTuple_ofTuple _ := rfl

/-- Gives a file another name in the directory `inode`. -/
structure LinkRequest where
  inode : UInt64
  oldInode : UInt64
  newName : String
  deriving DecidableEq

instance : Record LinkRequest where
  name := "LinkRequest"
  schema :=
    Schema.u64 "inode" <| Schema.u64 "old_inode" <| Schema.text "new_name" <| Schema.done
  toTuple r :=
    (r.inode, r.oldInode, r.newName, ())
  ofTuple := fun
    | (inode, oldInode, newName, ()) =>
      ⟨inode, oldInode, newName⟩
  ofTuple_toTuple _ := rfl
  toTuple_ofTuple _ := rfl

/-- Creates a file of any kind. -/
structure MknodRequest where
  inode : UInt64
  mode : UInt32
  rdev : UInt32
  name : String
  deriving DecidableEq

instance : Record MknodRequest where
  name := "MknodRequest"
  schema :=
    Schema.u64 "inode" <| Schema.u32 "mode" <| Schema.u32 "rdev" <| Schema.text "name" <|
    Schema.done
  toTuple r :=
    (r.inode, r.mode, r.rdev, r.name, ())
  ofTuple := fun
    | (inode, mode, rdev, name, ()) =>
      ⟨inode, mode, rdev, name⟩
  ofTuple_toTuple _ := rfl
  toTuple_ofTuple _ := rfl

/-- Moves an entry from the directory `inode` to another. -/
structure RenameRequest where
  inode : UInt64
  newDirInode : UInt64
  oldName : String
  newName : String
  deriving DecidableEq

instance : Record RenameRequest where
  name := "RenameRequest"
  schema :=
    Schema.u64 "inode" <| Schema.u64 "new_dir_inode" <| Schema.text "old_name" <|
    Schema.text "new_name" <| Schema.done
  toTuple r :=
    (r.inode, r.newDirInode, r.oldName, r.newName, ())
  ofTuple := fun
    | (inode, newDirInode, oldName, newName, ()) =>
      ⟨inode, newDirInode, oldName, newName⟩
  ofTuple_toTuple _ := rfl
  toTuple_ofTuple _ := rfl

/-- Removes an entry. -/
structure RemoveRequest where
  inode : UInt64
  dir : Bool
  name : String
  deriving DecidableEq

instance : Record RemoveRequest where
  name := "RemoveRequest"
  schema :=
    Schema.u64 "inode" <| Schema.bool "dir" <| Schema.text "name" <| Schema.done
  toTuple r :=
    (r.inode, r.dir, r.name, ())
  ofTuple := fun
    | (inode, dir, name, ()) =>
      ⟨inode, dir, name⟩
  ofTuple_toTuple _ := rfl
  toTuple_ofTuple _ := rfl

/-- Reads from an open file or directory. -/
structure ReadRequest where
  handle : UInt64
  offset : Int64
  size : UInt32
  dir : Bool
  deriving DecidableEq

instance : Record ReadRequest where
  name := "ReadRequest"
  schema :=
    Schema.u64 "handle" <| Schema.i64 "offset" <| Schema.u32 "size" <| Schema.bool "dir" <|
    Schema.done
  toTuple r :=
    (r.handle, r.offset, r.size, r.dir, ())
  ofTuple := fun
    | (handle, offset, size, dir, ()) =>
      ⟨handle, offset, size, dir⟩
  ofTuple_toTuple _ := rfl
  toTuple_ofTuple _ := rfl

/-- The bytes read. -/
structure ReadResponse where
  data : Bytes
  deriving DecidableEq

instance : Record ReadResponse where
  name := "ReadResponse"
  schema :=
    Schema.blob "data" <| Schema.done
  toTuple r :=
    (r.data, ())
  ofTuple := fun
    | (data, ()) =>
      ⟨data⟩
  ofTuple_toTuple _ := rfl
  toTuple_ofTuple _ := rfl

/-- Writes to an open file. -/
structure WriteRequest where
  handle : UInt64
  offset : Int64
  flags : UInt32
  data : Bytes
  deriving DecidableEq

instance : Record WriteRequest where
  name := "WriteRequest"
  schema :=
    Schema.u64 "handle" <| Schema.i64 "offset" <| Schema.u32 "flags" <| Schema.blob "data" <|
    Schema.done
  toTuple r :=
    (r.handle, r.offset, r.flags, r.data, ())
  ofTuple := fun
    | (handle, offset, flags, data, ()) =>
      ⟨handle, offset, flags, data⟩
  ofTuple_toTuple _ := rfl
  toTuple_ofTuple _ := rfl

/-- How many bytes were written. -/
structure WriteResponse where
  size : UInt32
  deriving DecidableEq

instance : Record WriteResponse where
  name := "WriteResponse"
  schema :=
    Schema.u32 "size" <| Schema.done
  toTuple r :=
    (r.size, ())
  ofTuple := fun
    | (size, ()) =>
      ⟨size⟩
  ofTuple_toTuple _ := rfl
  toTuple_ofTuple _ := rfl

/-- Closes one descriptor of an open file. -/
structure FlushRequest where
  handle : UInt64
  lockOwner : UInt64
  flags : UInt32
  deriving DecidableEq

instance : Record FlushRequest where
  name := "FlushRequest"
  schema :=
    Schema.u64 "handle" <| Schema.u64 "lock_owner" <| Schema.u32 "flags" <| Schema.done
  toTuple r :=
    (r.handle, r.lockOwner, r.flags, ())
  ofTuple := fun
    | (handle, lockOwner, flags, ()) =>
      ⟨handle, lockOwner, flags⟩
  ofTuple_toTuple _ := rfl
  toTuple_ofTuple _ := rfl

/-- Writes an open file or directory back. -/
structure FsyncRequest where
  handle : UInt64
  flags : UInt32
  dir : Bool
  deriving DecidableEq

instance : Record FsyncRequest where
  name := "FsyncRequest"
  schema :=
    Schema.u64 "handle" <| Schema.u32 "flags" <| Schema.bool "dir" <| Schema.done
  toTuple r :=
    (r.handle, r.flags, r.dir, ())
  ofTuple := fun
    | (handle, flags, dir, ()) =>
      ⟨handle, flags, dir⟩
  ofTuple_toTuple _ := rfl
  toTuple_ofTuple _ := rfl

/-- Gives up a handle. -/
structure ReleaseRequest where
  handle : UInt64
  flags : UInt32
  releaseFlags : UInt32
  lockOwner : UInt64
  dir : Bool
  deriving DecidableEq

instance : Record ReleaseRequest where
  name := "ReleaseRequest"
  schema :=
    Schema.u64 "handle" <| Schema.u32 "flags" <| Schema.u32 "release_flags" <|
    Schema.u64 "lock_owner" <| Schema.bool "dir" <| Schema.done
  toTuple r :=
    (r.handle, r.flags, r.releaseFlags, r.lockOwner, r.dir, ())
  ofTuple := fun
    | (handle, flags, releaseFlags, lockOwner, dir, ()) =>
      ⟨handle, flags, releaseFlags, lockOwner, dir⟩
  ofTuple_toTuple _ := rfl
  toTuple_ofTuple _ := rfl

/-- Gives up references to an inode. -/
structure ForgetRequest where
  inode : UInt64
  nlookup : UInt64
  deriving DecidableEq

instance : Record ForgetRequest where
  name := "ForgetRequest"
  schema :=
    Schema.u64 "inode" <| Schema.u64 "nlookup" <| Schema.done
  toTuple r :=
    (r.inode, r.nlookup, ())
  ofTuple := fun
    | (inode, nlookup, ()) =>
      ⟨inode, nlookup⟩
  ofTuple_toTuple _ := rfl
  toTuple_ofTuple _ := rfl

/-- Interrupts the request whose unique number is given. -/
structure InterruptRequest where
  intrUnique : UInt64
  deriving DecidableEq

instance : Record InterruptRequest where
  name := "InterruptRequest"
  schema :=
    Schema.u64 "intr_unique" <| Schema.done
  toTuple r :=
    (r.intrUnique, ())
  ofTuple := fun
    | (intrUnique, ()) =>
      ⟨intrUnique⟩
  ofTuple_toTuple _ := rfl
  toTuple_ofTuple _ := rfl

/-! ## The table -/

/-- One of the two records of an operation. -/
inductive Side
  | request | response
  deriving DecidableEq, Repr

namespace Operation

/-- The record that an operation sends. -/
def Request : Operation → Type
  | init => InitRequest
  | destroy => NoBody
  | statfs => NoBody
  | access => AccessRequest
  | getattr => GetattrRequest
  | setattr => SetattrRequest
  | listxattr => ListxattrRequest
  | getxattr => GetxattrRequest
  | setxattr => SetxattrRequest
  | removexattr => RemovexattrRequest
  | lookup => LookupRequest
  | openNode => OpenRequest
  | create => CreateRequest
  | mkdir => MkdirRequest
  | symlink => SymlinkRequest
  | readlink => ReadlinkRequest
  | link => LinkRequest
  | mknod => MknodRequest
  | rename => RenameRequest
  | remove => RemoveRequest
  | read => ReadRequest
  | write => WriteRequest
  | flush => FlushRequest
  | fsync => FsyncRequest
  | release => ReleaseRequest
  | forget => ForgetRequest
  | interrupt => InterruptRequest

instance recordRequest : (op : Operation) → Record op.Request
  | init => inferInstanceAs (Record InitRequest)
  | destroy => inferInstanceAs (Record NoBody)
  | statfs => inferInstanceAs (Record NoBody)
  | access => inferInstanceAs (Record AccessRequest)
  | getattr => inferInstanceAs (Record GetattrRequest)
  | setattr => inferInstanceAs (Record SetattrRequest)
  | listxattr => inferInstanceAs (Record ListxattrRequest)
  | getxattr => inferInstanceAs (Record GetxattrRequest)
  | setxattr => inferInstanceAs (Record SetxattrRequest)
  | removexattr => inferInstanceAs (Record RemovexattrRequest)
  | lookup => inferInstanceAs (Record LookupRequest)
  | openNode => inferInstanceAs (Record OpenRequest)
  | create => inferInstanceAs (Record CreateRequest)
  | mkdir => inferInstanceAs (Record MkdirRequest)
  | symlink => inferInstanceAs (Record SymlinkRequest)
  | readlink => inferInstanceAs (Record ReadlinkRequest)
  | link => inferInstanceAs (Record LinkRequest)
  | mknod => inferInstanceAs (Record MknodRequest)
  | rename => inferInstanceAs (Record RenameRequest)
  | remove => inferInstanceAs (Record RemoveRequest)
  | read => inferInstanceAs (Record ReadRequest)
  | write => inferInstanceAs (Record WriteRequest)
  | flush => inferInstanceAs (Record FlushRequest)
  | fsync => inferInstanceAs (Record FsyncRequest)
  | release => inferInstanceAs (Record ReleaseRequest)
  | forget => inferInstanceAs (Record ForgetRequest)
  | interrupt => inferInstanceAs (Record InterruptRequest)

/-- The record that answers an operation. -/
def Response : Operation → Type
  | init => InitResponse
  | destroy => NoBody
  | statfs => StatfsResponse
  | access => NoBody
  | getattr => AttrResponse
  | setattr => AttrResponse
  | listxattr => ListxattrResponse
  | getxattr => GetxattrResponse
  | setxattr => NoBody
  | removexattr => NoBody
  | lookup => EntryResponse
  | openNode => OpenResponse
  | create => CreateResponse
  | mkdir => EntryResponse
  | symlink => EntryResponse
  | readlink => ReadlinkResponse
  | link => EntryResponse
  | mknod => EntryResponse
  | rename => NoBody
  | remove => NoBody
  | read => ReadResponse
  | write => WriteResponse
  | flush => NoBody
  | fsync => NoBody
  | release => NoBody
  | forget => NoBody
  | interrupt => NoBody

instance recordResponse : (op : Operation) → Record op.Response
  | init => inferInstanceAs (Record InitResponse)
  | destroy => inferInstanceAs (Record NoBody)
  | statfs => inferInstanceAs (Record StatfsResponse)
  | access => inferInstanceAs (Record NoBody)
  | getattr => inferInstanceAs (Record AttrResponse)
  | setattr => inferInstanceAs (Record AttrResponse)
  | listxattr => inferInstanceAs (Record ListxattrResponse)
  | getxattr => inferInstanceAs (Record GetxattrResponse)
  | setxattr => inferInstanceAs (Record NoBody)
  | removexattr => inferInstanceAs (Record NoBody)
  | lookup => inferInstanceAs (Record EntryResponse)
  | openNode => inferInstanceAs (Record OpenResponse)
  | create => inferInstanceAs (Record CreateResponse)
  | mkdir => inferInstanceAs (Record EntryResponse)
  | symlink => inferInstanceAs (Record EntryResponse)
  | readlink => inferInstanceAs (Record ReadlinkResponse)
  | link => inferInstanceAs (Record EntryResponse)
  | mknod => inferInstanceAs (Record EntryResponse)
  | rename => inferInstanceAs (Record NoBody)
  | remove => inferInstanceAs (Record NoBody)
  | read => inferInstanceAs (Record ReadResponse)
  | write => inferInstanceAs (Record WriteResponse)
  | flush => inferInstanceAs (Record NoBody)
  | fsync => inferInstanceAs (Record NoBody)
  | release => inferInstanceAs (Record NoBody)
  | forget => inferInstanceAs (Record NoBody)
  | interrupt => inferInstanceAs (Record NoBody)

/-- The record that travels on one side of an operation. -/
def Message (op : Operation) : Side → Type
  | .request => op.Request
  | .response => op.Response

instance recordMessage (op : Operation) : (side : Side) → Record (op.Message side)
  | .request => inferInstanceAs (Record op.Request)
  | .response => inferInstanceAs (Record op.Response)

end Operation

end FsGateway.Wire
