import FsGateway.Logging
import FsGateway.Settings.Configuration

/-!
# Arguments of the gateway

What a user gives on the command line: the file of settings, the address of the administration
interface, whether the configuration is to be printed, and the logging options. An option has its
value in the next argument or behind an equals sign.

* `parse`: the arguments of a list of words.
* `override`: a configuration with what the arguments set.
-/

namespace FsGateway.Settings

/-- The arguments of the gateway. -/
structure Arguments where
  configFile : Option String
  bindHost : Option String
  dumpsConfig : Bool
  logging : Logging.Options
  deriving DecidableEq

instance : Inhabited Arguments := ⟨⟨none, none, false, ⟨none, none, none, none⟩⟩⟩

/-- Why words are no arguments. -/
inductive ArgumentFault
  | unknown (word : String)
  | noValue (option : String)
  | badValue (option value : String)
  | repeated (option : String)
  deriving DecidableEq, Repr

/-- The wording of a fault. -/
def ArgumentFault.message : ArgumentFault → String
  | unknown word => "unexpected argument " ++ Text.quoted word
  | noValue option => "a value is required for " ++ option
  | badValue option value => "invalid value " ++ Text.quoted value ++ " for " ++ option
  | repeated option => option ++ " cannot be used multiple times"

namespace Arguments

/-- A word cut at its first equals sign. -/
def cut (word : String) : String × Option String :=
  let cs := word.toList
  match cs.dropWhile (· ≠ '=') with
  | [] => (word, none)
  | _ :: value => (String.ofList (cs.takeWhile (· ≠ '=')), some (String.ofList value))

/-- The long name of an option. -/
def fullName (name : String) : String := if name = "-f" then "--config" else name

/-- Arguments with the value of an option that was not given before. -/
def set (name value : String) (a : Arguments) : Except ArgumentFault Arguments :=
  let once {α : Type} (old : Option α) (f : α → Arguments) (x : Option α) :
      Except ArgumentFault Arguments :=
    match old, x with
    | some _, _ => .error (.repeated name)
    | none, none => .error (.badValue name value)
    | none, some x => .ok (f x)
  let l := a.logging
  if name = "--config" then once a.configFile (fun x => { a with configFile := x }) (some value)
  else if name = "--bind-host" then once a.bindHost (fun x => { a with bindHost := x }) (some value)
  else if name = "--log-level" then
    once l.level (fun x => { a with logging := { l with level := x } })
      (Logging.Level.all.find? (·.name = value))
  else if name = "--log-format" then
    once l.format (fun x => { a with logging := { l with format := x } })
      (Logging.Format.all.find? (·.name = value))
  else if name = "--log-dir" then
    once l.directory (fun x => { a with logging := { l with directory := x } }) (some value)
  else if name = "--log-file" then
    once l.file (fun x => { a with logging := { l with file := x } }) (some value)
  else .error (.unknown name)

/-- The options that take a value. -/
def valued : List String :=
  ["--config", "--bind-host", "--log-level", "--log-format", "--log-dir", "--log-file"]

/-- The arguments of words, added to others. -/
def parseFrom (a : Arguments) : List String → Except ArgumentFault Arguments
  | [] => .ok a
  | word :: words =>
    let (name, value) := cut word
    let name := fullName name
    if word = "--dump-config" then
      if a.dumpsConfig then .error (.repeated word)
      else parseFrom { a with dumpsConfig := true } words
    else if valued.contains name = false then .error (.unknown word)
    else
      match value, words with
      | some value, words => do parseFrom (← a.set name value) words
      | none, value :: words => do parseFrom (← a.set name value) words
      | none, [] => .error (.noValue name)

/-- The arguments of words. -/
def parse (words : List String) : Except ArgumentFault Arguments := parseFrom default words

/-- A configuration with what the arguments set, if nothing is wrong with it. -/
def override (a : Arguments) (c : Configuration) : Except Fault Configuration :=
  let c := { c with bindHost := a.bindHost.getD c.bindHost }
  match c.defect? with
  | some d => .error (.invalid d)
  | none => .ok c

end Arguments

/-- The ending of the name of a file, without the point. -/
def File.suffixOf (path : String) : String :=
  let name := (path.toList.reverse.takeWhile (· ≠ '/')).reverse
  let ending := (name.reverse.takeWhile (· ≠ '.')).reverse
  if ending.length + 1 < name.length then String.ofList ending else ""

end FsGateway.Settings
