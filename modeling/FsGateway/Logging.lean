import FsGateway.Json.Schema
import FsGateway.Mount.Path

/-!
# Logging options

Which messages are logged, in which form, and to which file. Without a file or a directory the
log goes to the console.

* `ofNode`, `toNode`: the options as a JSON object; each may be left out.
* `filePath`: the path of the log file.
-/

namespace FsGateway.Logging

open FsGateway.Json (Node)
open FsGateway.Mount (Path)

/-- How much is logged. -/
inductive Level
  | error | warn | info | debug | trace
  deriving DecidableEq, Repr

namespace Level

instance : Inhabited Level := ⟨info⟩

/-- Every level. -/
def all : List Level := [error, warn, info, debug, trace]

/-- The name that a user gives. -/
def name : Level → String
  | error => "error" | warn => "warn" | info => "info" | debug => "debug" | trace => "trace"

/-- The name that stands in the log. -/
def tag (l : Level) : String := l.name.map Char.toUpper

end Level

/-- The form of log records. -/
inductive Format
  | plaintext | json
  deriving DecidableEq, Repr

namespace Format

instance : Inhabited Format := ⟨plaintext⟩

/-- Every form. -/
def all : List Format := [plaintext, json]

/-- The name that a user gives. -/
def name : Format → String
  | plaintext => "plaintext" | json => "json"

end Format

/-- The logging options of a program. -/
structure Options where
  level : Option Level
  format : Option Format
  directory : Option String
  file : Option String
  deriving DecidableEq, Repr

namespace Options

/-! ## JSON -/

/-- An option that null leaves out. -/
def optional {α : Type} (read : Node → Option α) : Node → Option (Option α)
  | .null => some none
  | n => (read n).map some

/-- The text of a string node. -/
def text? : Node → Option String
  | .string raw => Json.Text.value? raw
  | _ => none

/-- The choice that a node names, either as a string or as the only member of an object. -/
def choice? {α : Type} (name : α → String) (all : List α) : Node → Option α
  | .object [(raw, .null)] true => find (Json.Text.value? raw)
  | n => find (text? n)
where
  /-- The choice with a name. -/
  find (s : Option String) : Option α := s.bind fun s => all.find? (name · = s)

/-- The member of an object with a name, null if there is none, unless there are several. -/
def member? (members : List (Bytes × Node)) (name : String) : Option Node :=
  match members.filter fun m => Json.Text.value? m.1 = some name with
  | [] => some .null
  | [m] => some m.2
  | _ => none

/-- The options of a node: an object, or an array of the four in order. -/
def ofNode (n : Node) : Option Options :=
  match n with
  | .object members true => do
    let level ← member? members "log-level"
    let format ← member? members "log-format"
    let directory ← member? members "log-dir"
    let file ← member? members "log-file"
    ofFour level format directory file
  | .array [level, format, directory, file] true => ofFour level format directory file
  | _ => none
where
  /-- The options of four nodes. -/
  ofFour (level format directory file : Node) : Option Options := do
    pure ⟨← optional (choice? Level.name Level.all) level,
      ← optional (choice? Format.name Format.all) format,
      ← optional text? directory, ← optional text? file⟩

/-- The options as an object, without those that are left out. -/
def toNode (o : Options) : Node :=
  let member (name : String) (value : Option String) : List (Bytes × Node) :=
    (value.map fun s => (Json.Text.raw name, Node.ofText s)).toList
  .object (member "log-level" (o.level.map Level.name)
    ++ member "log-format" (o.format.map Format.name)
    ++ member "log-dir" o.directory ++ member "log-file" o.file) true

/-! ## Where the log goes -/

/-- Whether the log goes to a file. -/
def toFile (o : Options) : Bool := o.file.isSome || o.directory.isSome

/-- The path of the log file of a program. The file counts from the directory, and has the name of
the program if none is given. -/
def filePath (o : Options) (program : String) : Option Path :=
  match o.file, o.directory with
  | some file, none => some ⟨file⟩
  | some file, some directory => some (Path.join ⟨directory⟩ ⟨file⟩)
  | none, some directory => some (Path.join ⟨directory⟩ ⟨program ++ ".log"⟩)
  | none, none => none

end Options

end FsGateway.Logging
