import FsGateway.Mount.Table

/-!
# Files in memory

A tree of directories and files, as far as the mount table needs one: whole files are read and
written, and a file is renamed.

* `locate`: where a path leads. Every name before the last one must be that of a directory, so a
  pair of dots leads back only out of a directory that exists.
* `read`, `write`, `rename`: the operations, each with the fault it may end with.
-/

namespace FsGateway.Mount

/-- What stands at a place. -/
inductive File
  | regular (content : Bytes)
  | directory
  deriving DecidableEq, Repr

/-- A place in a tree: the names on the way to it from the root. -/
abbrev Place := List (List Char)

/-- The files and directories of a tree, by their places. -/
structure Files where
  entries : List (Place × File)
  deriving DecidableEq, Repr

namespace Files

/-! ## Places -/

/-- What stands at a place. The root is a directory. -/
def find? (fs : Files) (place : Place) : Option File :=
  if place = [] then some .directory else fs.entries.lookup place

/-- The tree with something at a place. -/
def put (fs : Files) (place : Place) (f : File) : Files :=
  ⟨fs.entries.filter (·.1 ≠ place) ++ [(place, f)]⟩

/-- The tree without what stands at a place or below it. -/
def delete (fs : Files) (place : Place) : Files :=
  ⟨fs.entries.filter fun e => !place.isPrefixOf e.1⟩

/-! ## Paths -/

/-- The number of bytes in a text. -/
def width (cs : List Char) : Nat := (Text.encode (String.ofList cs)).length

/-- The greatest number of bytes in a name. -/
def maxName : Nat := 255

/-- The greatest number of bytes in a path. -/
def maxPath : Nat := 4095

/-- Whether a name is one that leads to a directory by itself. -/
def isDots (name : List Char) : Bool := name = ['.'] || name = ['.', '.']

/-- The directory that one more name leads to. -/
def enter (fs : Files) (place : Place) (name : List Char) : Except IoFault Place :=
  if name = ['.'] then .ok place
  else if name = ['.', '.'] then .ok place.dropLast
  else if maxName < width name then .error .nameTooLong
  else
    match fs.find? (place ++ [name]) with
    | some .directory => .ok (place ++ [name])
    | some (.regular _) => .error .notADirectory
    | none => .error .notFound

/-- What a path leads to: a directory that exists, or a name within one. -/
inductive Goal
  | directory (place : Place)
  | entry (parent : Place) (name : List Char)
  deriving DecidableEq, Repr

/-- Where a path leads. -/
def locate (fs : Files) (p : Path) : Except IoFault Goal :=
  if p.text.toList.contains '\x00' then .error .nulInName
  else if maxPath < width p.text.toList then .error .nameTooLong
  else
    match p.names.getLast? with
    | none => .ok (.directory [])
    | some last =>
      if isDots last then .directory <$> p.names.foldlM fs.enter []
      else do
        let parent ← p.names.dropLast.foldlM fs.enter []
        pure (.entry parent last)

/-- What stands at a name within a directory. -/
def lookUp (fs : Files) (parent : Place) (name : List Char) : Except IoFault (Option File) :=
  if maxName < width name then .error .nameTooLong else .ok (fs.find? (parent ++ [name]))

/-! ## Operations -/

/-- The content of a file. -/
def read (fs : Files) (p : Path) : Except IoFault Bytes := do
  match ← fs.locate p with
  | .directory _ => .error .isADirectory
  | .entry parent name =>
    match ← fs.lookUp parent name with
    | some (.regular content) => if p.endsInSlash then .error .notADirectory else .ok content
    | some .directory => .error .isADirectory
    | none => .error .notFound

/-- The tree after a file has been written. -/
def written (fs : Files) (p : Path) (content : Bytes) : Except IoFault Files := do
  match ← fs.locate p with
  | .directory _ => .error .isADirectory
  | .entry parent name =>
    if p.endsInSlash then .error .isADirectory
    else
      match ← fs.lookUp parent name with
      | some .directory => .error .isADirectory
      | _ => .ok (fs.put (parent ++ [name]) (.regular content))

/-- The tree after a file has been renamed. A directory is not replaced by a file, and directories
are not renamed. -/
def renamed (fs : Files) (source target : Path) : Except IoFault Files := do
  match ← fs.locate source, ← fs.locate target with
  | .entry parent name, .entry parent' name' =>
    match ← fs.lookUp parent name with
    | none => .error .notFound
    | some .directory => .error .isADirectory
    | some (.regular content) =>
      let there ← fs.lookUp parent' name'
      if source.endsInSlash ∨ target.endsInSlash then .error .notADirectory
      else if there = some .directory then .error .isADirectory
      else .ok ((fs.delete (parent ++ [name])).put (parent' ++ [name']) (.regular content))
  | _, _ => .error .busy

/-- The tree with a directory more, unless something is in its place or it has no place. -/
def makeDirectory (fs : Files) (p : Path) : Files :=
  match fs.locate p with
  | .ok (.entry parent name) =>
    if fs.lookUp parent name matches .ok none then fs.put (parent ++ [name]) .directory else fs
  | _ => fs

/-- The tree without what a path leads to. -/
def remove (fs : Files) (p : Path) : Files :=
  match fs.locate p with
  | .ok (.entry parent name) => fs.delete (parent ++ [name])
  | _ => fs

/-- A change that leaves the tree as it was where it fails. -/
def attempt (fs : Files) (change : Except IoFault Files) : Option IoFault × Files :=
  match change with
  | .ok after => (none, after)
  | .error fault => (some fault, fs)

/-- Writes a whole file. -/
def write (fs : Files) (p : Path) (content : Bytes) : Option IoFault × Files :=
  fs.attempt (fs.written p content)

/-- Renames a file. -/
def rename (fs : Files) (source target : Path) : Option IoFault × Files :=
  fs.attempt (fs.renamed source target)

/-- Files in memory as a file system. -/
def system : FileSystem Files where
  read := read
  write := write
  rename := rename

end Files

end FsGateway.Mount
