import FsGateway.Kernel.FileKind

/-!
# Directory entries

The data of a directory read is a sequence of entries: a header of 24 bytes with the inode, the
offset of the next entry, the length of the name and the type, then the name, then zeros up to a
multiple of eight bytes.

* `encode`, `encodeAll`: entries as bytes.
* `parse`: the entries at the start of arbitrary bytes, up to the first that is cut off or has no
  name.
-/

namespace FsGateway.Kernel

/-- One entry of a directory. -/
structure DirectoryEntry where
  inode : UInt64
  /-- Where the next entry is read from. -/
  offset : Int64
  kind : FileKind
  name : Bytes
  deriving DecidableEq, Repr

namespace DirectoryEntry

/-- The number of bytes before the name. -/
def headerLength : Nat := 24

/-- The number of bytes of an entry with its padding. -/
def paddedLength (nameLength : Nat) : Nat := (headerLength + nameLength + 7) / 8 * 8

/-- The bytes before the name. -/
def header (e : DirectoryEntry) : Bytes :=
  wordBytes 8 e.inode.toNat ++ wordBytes 8 e.offset.toUInt64.toNat ++ wordBytes 4 e.name.length
    ++ wordBytes 4 e.kind.entryType.toNat

/-- An entry with its padding. -/
def encode (e : DirectoryEntry) : Bytes :=
  e.header ++ e.name
    ++ List.replicate (paddedLength e.name.length - (headerLength + e.name.length)) 0

/-- Entries one after another. -/
def encodeAll (es : List DirectoryEntry) : Bytes := es.flatMap encode

/-- The entry at the start of the bytes, unless it is cut off or has no name. -/
def first? (b : Bytes) : Option DirectoryEntry :=
  if b.length < headerLength then none
  else
    let n := wordValue ((b.drop 16).take 4)
    if n = 0 ∨ b.length < headerLength + n then none
    else
      some
        { inode := UInt64.ofNat (wordValue (b.take 8))
          offset := signed64 (wordValue ((b.drop 8).take 8))
          kind := FileKind.ofEntryType (UInt32.ofNat (wordValue ((b.drop 20).take 4)))
          name := (b.drop headerLength).take n }

theorem length_of_first {b : Bytes} {e : DirectoryEntry} (h : first? b = some e) :
    headerLength ≤ b.length := by
  unfold first? at h
  split at h
  · cases h
  · omega

/-- The entries at the start of the bytes. -/
def parse (b : Bytes) : List DirectoryEntry :=
  match _h : first? b with
  | none => []
  | some e => e :: parse (b.drop (paddedLength e.name.length))
termination_by b.length
decreasing_by
  have h1 := length_of_first _h
  have h2 : headerLength = 24 := rfl
  have h3 : 0 < paddedLength e.name.length := by
    unfold paddedLength
    omega
  simp only [List.length_drop]
  omega

end DirectoryEntry

end FsGateway.Kernel
