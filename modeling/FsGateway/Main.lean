import FsGateway.Settings.Arguments

/-!
# The command line

The program prints the configuration that a file, the environment and the arguments make. Mounts
are served by whoever talks to a kernel, so without `--dump-config` the configuration is only
checked.
-/

namespace FsGateway.CommandLine

open Settings

/-- The variables that set something, as far as the environment has them. -/
def readEnvironment : IO (List (String × String)) :=
  (Configuration.keys.map Environment.nameOf).filterMapM fun name => do
    return (← IO.getEnv name).map fun value => (name, value)

/-- A file of settings. -/
def readFile (path : String) : IO File := do
  let content ← (some <$> IO.FS.readBinFile path) <|> pure none
  return ⟨File.suffixOf path, content.map fun b => b.data.toList⟩

/-- Prints a message where errors go, and fails. -/
def fail (code : UInt32) (message : String) : IO UInt32 := do
  IO.eprintln ("error: " ++ message)
  return code

/-- What the program does with its arguments. -/
def run (a : Arguments) : IO UInt32 := do
  let path := a.configFile.or (← IO.getEnv (Environment.nameOf "config"))
  let file ← path.mapM readFile
  match Configuration.load file (← readEnvironment) >>= a.override with
  | .error .unreadable => fail 1 "failed to load configuration"
  | .error (.invalid d) => fail 1 d.message
  | .ok c =>
    if a.dumpsConfig then
      if c.fitsToml then
        IO.print c.dump
        return 0
      else fail 1 "a time is out of range"
    else return 0

end FsGateway.CommandLine

def main (words : List String) : IO UInt32 :=
  match FsGateway.Settings.Arguments.parse words with
  | .ok a => FsGateway.CommandLine.run a
  | .error f => FsGateway.CommandLine.fail 2 f.message
