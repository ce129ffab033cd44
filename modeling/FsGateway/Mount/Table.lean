import FsGateway.Mount.Descriptor

/-!
# The mount table

The list of mounts is kept in a file, with a copy of the file's previous content beside it. Both
files are replaced by writing a staging file and renaming it, the copy first.

* `save`, `load`: the list to the file and back. A file that is missing or holds no list is an
  empty list.
* `steps`: what a save does to the files, one step after another. It stops at the first step that
  fails.
-/

namespace FsGateway.Mount

/-! ## Files -/

/-- A way to read and change files, for any type of their state. -/
structure FileSystem (σ : Type) where
  read : σ → Path → Except IoFault Bytes
  write : σ → Path → Bytes → Option IoFault × σ
  rename : σ → (source target : Path) → Option IoFault × σ

/-- A change to the files. -/
inductive Step
  | write (path : Path) (content : Bytes)
  | rename (source target : Path)
  deriving DecidableEq, Repr

namespace Step

variable {σ : Type}

/-- Makes a change. -/
def perform (fs : FileSystem σ) (s : σ) : Step → Option IoFault × σ
  | write path content => fs.write s path content
  | rename source target => fs.rename s source target

/-- The path that a failed change is reported with. -/
def blamed : Step → Path
  | write path _ => path
  | rename _ target => target

/-- Makes changes one after another up to the first that fails. -/
def performAll (fs : FileSystem σ) : List Step → σ → Except TableFault Unit × σ
  | [], s => (.ok (), s)
  | step :: steps, s =>
    match step.perform fs s with
    | (none, s) => performAll fs steps s
    | (some fault, s) => (.error (.write step.blamed fault), s)

end Step

/-! ## The table -/

/-- Where the list of mounts and the copy of its previous state are kept. -/
structure Table where
  saveTo : Path
  backupTo : Path
  deriving DecidableEq, Repr

namespace Table

/-- The ending of staging files. -/
def staging : String := ".tmp"

/-- The file that a path is replaced from. -/
def staged (p : Path) : Path := p.withSuffix staging

/-- The content of the file for a list of mounts. Every list has one, since paths are UTF-8, so a save
cannot fail between replacing the two files. -/
def encode (mounts : List Descriptor) : Bytes :=
  (Json.Node.array (mounts.map Descriptor.toNode) true).print

/-- The list of mounts of a file, if it holds one. -/
def decode? (content : Bytes) : Option (List Descriptor) :=
  match Json.readDocument (Json.readItems Descriptor.ofNode) content with
  | .ok mounts => some mounts
  | .error _ => none

/-- Replaces the content of a file. -/
def replace (path : Path) (content : Bytes) : List Step :=
  [.write (staged path) content, .rename (staged path) path]

/-- The changes of a save, for the content that the file has and the one it gets. -/
def steps (t : Table) (previous content : Bytes) : List Step :=
  replace t.backupTo previous ++ replace t.saveTo content

variable {σ : Type}

/-- The content of the save file. A missing file is empty. -/
def previous (fs : FileSystem σ) (t : Table) (s : σ) : Except TableFault Bytes :=
  match fs.read s t.saveTo with
  | .ok content => .ok content
  | .error .notFound => .ok []
  | .error fault => .error (.read t.saveTo fault)

/-- Saves a list of mounts. -/
def save (fs : FileSystem σ) (t : Table) (mounts : List Descriptor) (s : σ) :
    Except TableFault Unit × σ :=
  match t.previous fs s with
  | .error fault => (.error fault, s)
  | .ok previous => Step.performAll fs (t.steps previous (encode mounts)) s

/-- The saved list of mounts. -/
def load (fs : FileSystem σ) (t : Table) (s : σ) : Except TableFault (List Descriptor) :=
  (t.previous fs s).map fun content => (decode? content).getD []

end Table

end FsGateway.Mount
