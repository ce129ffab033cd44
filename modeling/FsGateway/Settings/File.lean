import FsGateway.Settings.KeyPath

/-!
# Settings files

A file of settings is a TOML or a JSON document with a table outermost. The ending of its name
says which of the two it is. Its text may start with a mark of the byte order, and what is not
valid in it is replaced.

* `members?`: the outermost table of a file.
-/

namespace FsGateway.Settings

/-- A file of settings. -/
structure File where
  /-- The ending of the name, without the point. -/
  suffix : String
  /-- What the file holds, if there is such a file. -/
  content : Option Bytes

namespace File

/-- The mark of the byte order. -/
def mark : Bytes := [0xEF, 0xBB, 0xBF]

/-- The text of what a file holds. -/
def textOf (content : Bytes) : String :=
  Text.decodeLossy (if mark.isPrefixOf content then content.drop mark.length else content)

/-- The members of the outermost table of a file, if it can be read. Formats other than TOML and JSON
are left out: files with their endings are taken for files that cannot be read. -/
def members? (f : File) : Option (List (String × Value)) :=
  match f.content with
  | none => none
  | some content =>
    if f.suffix = "toml" then (Toml.Document.parse? (textOf content)).map Value.ofTomlMembers
    else if f.suffix = "json" then
      match Value.ofJson? (textOf content) with
      | some (.table ms) => some ms
      | _ => none
    else none

end File

end FsGateway.Settings
