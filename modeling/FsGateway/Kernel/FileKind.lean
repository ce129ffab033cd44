import FsGateway.Wire.Messages

/-!
# Kinds of files

The kind of a file is one value of the four highest bits of its mode. A value that stands for no
kind counts as a regular file.

* `ofMode_modeBits`: a kind is found again in its own bits.
-/

namespace FsGateway.Kernel

/-- The kind of a file. -/
inductive FileKind
  | namedPipe | charDevice | blockDevice | directory | regularFile | symlink | socket
  deriving DecidableEq, Repr

namespace FileKind

/-- The bits of a mode that hold the kind. -/
def mask : UInt32 := 0xF000

/-- The bits of a kind. -/
def modeBits : FileKind → UInt32
  | namedPipe => 0x1000
  | charDevice => 0x2000
  | directory => 0x4000
  | blockDevice => 0x6000
  | regularFile => 0x8000
  | symlink => 0xA000
  | socket => 0xC000

/-- Every kind. -/
def all : List FileKind :=
  [namedPipe, charDevice, directory, blockDevice, regularFile, symlink, socket]

/-- The kind in a mode. -/
def ofMode (mode : UInt32) : FileKind :=
  (all.find? (·.modeBits = mode &&& mask)).getD regularFile

/-- The type number of a kind in a directory entry. -/
def entryType (k : FileKind) : UInt32 := k.modeBits >>> 12

/-- The kind of a type number in a directory entry. -/
def ofEntryType (t : UInt32) : FileKind := ofMode (t <<< 12)

/-- The name of a kind. -/
def name : FileKind → String
  | namedPipe => "NamedPipe" | charDevice => "CharDevice" | blockDevice => "BlockDevice"
  | directory => "Directory" | regularFile => "RegularFile" | symlink => "Symlink"
  | socket => "Socket"

/-- The kind with a name. -/
def ofName? (s : String) : Option FileKind := all.find? (·.name = s)

theorem ofMode_modeBits (k : FileKind) : ofMode k.modeBits = k := by cases k <;> rfl

theorem ofEntryType_entryType (k : FileKind) : ofEntryType k.entryType = k := by cases k <;> rfl

end FileKind

/-- The permissions in a mode, with the set-user, set-group and sticky bits. -/
def permissions (mode : UInt32) : UInt32 := mode &&& 0xFFF

end FsGateway.Kernel
