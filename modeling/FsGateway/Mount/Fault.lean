import FsGateway.Client.Failure
import FsGateway.Mount.Path
import FsGateway.Text.Quoted

/-!
# Why a mount operation fails

Every failure has a wording, an error number and an HTTP status.
-/

namespace FsGateway.Mount

/-- Why a file cannot be read or written. -/
inductive IoFault
  | notFound
  | notADirectory
  | isADirectory
  | busy
  | nameTooLong
  | nulInName
  | other (text : String)
  deriving DecidableEq, Repr

/-- The wording of a fault. -/
def IoFault.message : IoFault → String
  | notFound => "No such file or directory (os error 2)"
  | notADirectory => "Not a directory (os error 20)"
  | isADirectory => "Is a directory (os error 21)"
  | busy => "Device or resource busy (os error 16)"
  | nameTooLong => "File name too long (os error 36)"
  | nulInName => "file name contained an unexpected NUL byte"
  | other text => text

/-- Why the mount table cannot be loaded or saved. A list of mounts, whose paths are UTF-8, can always be
encoded. -/
inductive TableFault
  | read (path : Path) (fault : IoFault)
  | write (path : Path) (fault : IoFault)
  deriving DecidableEq, Repr

/-- The wording of a fault. -/
def TableFault.message : TableFault → String
  | read path fault => "failed to read " ++ path.text ++ ": " ++ fault.message
  | write path fault => "failed to write " ++ path.text ++ ": " ++ fault.message

/-- Why a mount operation fails. -/
inductive Fault
  | alreadyMounted (point : Path)
  | notMounted (point : Path)
  | invalidAllow (allow : String)
  | invalidTarget (target reason : String)
  | mount (point : Path) (reason : String)
  | unmount (point : Path) (reason : String)
  | table (fault : TableFault)
  deriving DecidableEq, Repr

namespace Fault

/-- The wording of a fault. -/
def message : Fault → String
  | alreadyMounted point => point.text ++ " is already mounted"
  | notMounted point => point.text ++ " is not mounted"
  | invalidAllow allow =>
    "invalid argument `allow`: value can be `allow_root` or `allow_other`, got "
      ++ Text.quoted allow
  | invalidTarget target reason => "invalid target " ++ Text.quoted target ++ ": " ++ reason
  | mount point reason => "failed to mount " ++ point.text ++ ": " ++ reason
  | unmount point reason => "failed to unmount " ++ point.text ++ ": " ++ reason
  | table fault => fault.message

/-- The error number of a fault. -/
def errno : Fault → Errno
  | alreadyMounted _ => Errno.eexist
  | notMounted _ => Errno.enoent
  | invalidAllow _ | invalidTarget .. => Errno.einval
  | mount .. | unmount .. | table _ => Errno.eio

/-- The HTTP status of a fault. -/
def status : Fault → Nat
  | alreadyMounted _ => 409
  | notMounted _ => 404
  | invalidAllow _ | invalidTarget .. => 400
  | mount .. | unmount .. | table _ => 500

/-- The title under which a fault is reported. -/
def title : Fault → String
  | alreadyMounted _ => "Already Mounted"
  | notMounted _ => "Not Mounted"
  | invalidAllow _ | invalidTarget .. => "Invalid Mount Arguments"
  | mount .. => "Mount Failed"
  | unmount .. => "Unmount Failed"
  | table _ => "Mount Table Error"

end Fault

/-! ## Problem bodies -/

/-- How a fault is reported to a caller of the admin interface. -/
structure Problem where
  title : String
  status : Nat
  detail : String
  errno : Errno
  deriving DecidableEq, Repr

namespace Problem

/-- The report of a fault. -/
def ofFault (f : Fault) : Problem := ⟨f.title, f.status, f.message, f.errno⟩

/-- A report as a JSON object. -/
def toNode (p : Problem) : Json.Node :=
  .object
    [(Json.Text.raw "title", .ofText p.title),
     (Json.Text.raw "status", .number (Json.Number.natLexeme p.status)),
     (Json.Text.raw "detail", .ofText p.detail),
     (Json.Text.raw "errno", .number (Json.Number.intLexeme p.errno.toInt))] true

end Problem

end FsGateway.Mount
