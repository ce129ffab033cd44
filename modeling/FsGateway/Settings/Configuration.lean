import FsGateway.Gateway.Manager
import FsGateway.Settings.Environment
import FsGateway.Settings.File
import FsGateway.Text.Quoted

/-!
# The configuration of a gateway

Settings have defaults. A file overrides them, and the environment overrides the file. The result
is checked as a whole.

* `load`: the configuration of a file and an environment.
* `defect?`: what is wrong with a configuration.
* `setup`: what a configuration fixes for the mounts.
* `dump`: a configuration as a TOML document.
-/

namespace FsGateway.Settings

open FsGateway.Mount (Path Table)
open FsGateway.Wire (Encoding)

/-- The settings of a gateway. Times are in milliseconds, and 0 is no limit. -/
structure Configuration where
  /-- The address of the administration interface. -/
  bindHost : String
  /-- The file that the mounts are kept in. -/
  saveTo : Option Path
  backupTo : Option Path
  encoding : Encoding
  requestTimeout : UInt64
  drainTimeout : UInt64
  authScheme : String
  deriving DecidableEq

instance : Inhabited Configuration :=
  ⟨⟨"127.0.0.1:9876", none, none, default, 0, 0, "FuseGate"⟩⟩

/-- What is wrong with a configuration. -/
inductive Defect
  | noBindHost
  | noToken (scheme : String)
  | backupAlone
  deriving DecidableEq, Repr

/-- The wording of a defect. -/
def Defect.message : Defect → String
  | noBindHost => "invalid configuration: bind_host must not be empty"
  | noToken s => "invalid configuration: auth_scheme must be a single token, got " ++ Text.quoted s
  | backupAlone => "invalid configuration: backup_to requires save_to"

/-- Why there is no configuration. -/
inductive Fault
  /-- The file cannot be read, or a value is not of the kind that its setting needs. -/
  | unreadable
  | invalid (d : Defect)
  deriving DecidableEq, Repr

namespace Configuration

/-! ## Settings of values -/

/-- The encoding that a value names, either as a text or as the only key of a table. -/
def encoding? : Value → Option Encoding
  | .text s => Encoding.ofName? s
  | .table [(k, _)] => Encoding.ofName? k
  | _ => none

/-- A path, where nil is none. -/
def path? : Value → Option (Option Path)
  | .nil => some none
  | v => v.text?.map fun s => some ⟨s⟩

/-- The setting under a key, read from its value, or the default. -/
def setting? {α : Type} (v : Value) (key : String) (read? : Value → Option α) (default : α) :
    Option α :=
  match v.get? key with
  | none => some default
  | some x => read? x

/-- The keys of the settings. -/
def keys : List String :=
  ["bind_host", "save_to", "backup_to", "encoding", "request_timeout_ms", "drain_timeout_ms",
   "auth_scheme"]

/-- The settings of a table. Other keys are not looked at. -/
def ofValue? (v : Value) : Option Configuration := do
  let d : Configuration := default
  pure {
    bindHost := ← setting? v "bind_host" Value.text? d.bindHost
    saveTo := ← setting? v "save_to" path? d.saveTo
    backupTo := ← setting? v "backup_to" path? d.backupTo
    encoding := ← setting? v "encoding" encoding? d.encoding
    requestTimeout := ← setting? v "request_timeout_ms" Value.natural? d.requestTimeout
    drainTimeout := ← setting? v "drain_timeout_ms" Value.natural? d.drainTimeout
    authScheme := ← setting? v "auth_scheme" Value.text? d.authScheme }

/-! ## Loading -/

/-- The first thing that is wrong with a configuration. -/
def defect? (c : Configuration) : Option Defect :=
  if c.bindHost.toList.all Text.isBlank then some .noBindHost
  else if c.authScheme.toList.all Text.isBlank || c.authScheme.toList.any Text.isBlank then
    some (.noToken c.authScheme)
  else if c.backupTo.isSome && c.saveTo.isNone then some .backupAlone
  else none

/-- The table that a file, if one is named, and an environment make. -/
def sources? (file : Option File) (environment : List (String × String)) : Option Value :=
  let base := match file with
    | none => some []
    | some f => f.members?
  base.map fun ms => ((Value.table []).layer ms).layer (Environment.members environment)

/-- The configuration of a file, if one is named, and of an environment. -/
def load (file : Option File) (environment : List (String × String)) :
    Except Fault Configuration :=
  match (sources? file environment).bind ofValue? with
  | none => .error .unreadable
  | some c =>
    match c.defect? with
    | some d => .error (.invalid d)
    | none => .ok c

/-! ## What a configuration fixes -/

/-- A time limit, unless it is 0. -/
def limit (ms : UInt64) : Option Nat := if ms = 0 then none else some ms.toNat

/-- The mount table. The copy of its previous state is beside it if no other place is set. -/
def table (c : Configuration) : Option Table :=
  c.saveTo.map fun saveTo => ⟨saveTo, c.backupTo.getD (saveTo.withSuffix ".bak")⟩

/-- What is fixed for all mounts. -/
def setup (c : Configuration) : Gateway.Setup where
  client := ⟨c.encoding, some c.authScheme⟩
  requestTimeout := limit c.requestTimeout
  drainTimeout := limit c.drainTimeout
  table := c.table

/-! ## Dumping -/

/-- The line of a key. -/
def line (key value : String) : String := key ++ " = " ++ value ++ "\n"

/-- A configuration as a TOML document, with a line for each setting that has a value. -/
def dump (c : Configuration) : String :=
  let path (key : String) (p : Option Path) : String :=
    p.elim "" fun p => line key (Toml.Text.quote p.text)
  line "bind_host" (Toml.Text.quote c.bindHost)
    ++ path "save_to" c.saveTo
    ++ path "backup_to" c.backupTo
    ++ line "encoding" (Toml.Text.quote c.encoding.name)
    ++ line "request_timeout_ms" (toString c.requestTimeout.toNat)
    ++ line "drain_timeout_ms" (toString c.drainTimeout.toNat)
    ++ line "auth_scheme" (Toml.Text.quote c.authScheme)

/-- Whether a character is a letter, a digit, a space or one of the marks of addresses and
paths. -/
def isPlainChar (c : Char) : Bool :=
  c.isAlphanum || c = ' ' || c = '.' || c = '_' || c = ':' || c = '/' || c = '-'

/-- Whether all texts of a configuration are made of plain characters. -/
def isPlain (c : Configuration) : Bool :=
  let plain := fun s : String => s.toList.all isPlainChar
  plain c.bindHost && c.saveTo.all (plain ·.text) && c.backupTo.all (plain ·.text)
    && plain c.authScheme

/-- Whether all times of a configuration fit in whole numbers of TOML. -/
def fitsToml (c : Configuration) : Bool :=
  Numeral.fitsInt64 c.requestTimeout.toNat && Numeral.fitsInt64 c.drainTimeout.toNat

/-- A configuration as a TOML document, if its texts need no escapes. -/
def dump? (c : Configuration) : Option String :=
  if c.isPlain && c.fitsToml then some c.dump else none

end Configuration

end FsGateway.Settings
