import ImageDiscovery.CommandLine

/-!
# Main — the program

Reads the words, the environment and the machine, carries out the command, and writes what it leaves.
Nothing here reaches a server, so every request ends in a fault of the connection.
-/

namespace ImageDiscovery

namespace Program

/-- The text of a file without its last line feed; nothing if the file cannot be read. -/
def readFile (path : String) : IO Text := do
  try
    return Text.dropEndWhile (Text.ofString (← IO.FS.readFile path)) (· = .char '\n')
  catch _ => return []

def readEnvironment : IO Environment :=
  Environment.names.foldlM (fun env name => do
    match ← IO.getEnv (name.toString?.getD "") with
    | some value => return env.insert name (Text.ofString value)
    | none => return env) {}

def readPlatform : IO Platform := do
  return ⟨← readFile "/proc/sys/kernel/ostype", ← readFile "/proc/sys/kernel/arch"⟩

def unreachable : Fetch.Server := fun _ =>
  .fault ⟨"ConnectError", "All connection attempts failed"⟩

def usage : String := "Usage: acdiscovery [OPTIONS] discover [OPTIONS] NAMES..."

end Program

end ImageDiscovery

open ImageDiscovery in
def main (words : List String) : IO UInt32 := do
  let environment ← Program.readEnvironment
  let setting : CommandLine.Setting := {
    environment
    platform := ← Program.readPlatform
    server := Program.unreachable
    logging := (({} : Log.State).configure environment {}).1 }
  let command := CommandLine.Command.ofWords (words.map Text.ofString)
  let (effects, exit) := CommandLine.run setting command
  IO.print (effects.out.toString?.getD "")
  for record in effects.logs do
    IO.eprintln (record.toText.toString?.getD "")
  IO.eprint (effects.err.toString?.getD "")
  match command with
  | .help => IO.println Program.usage
  | .misuse => IO.eprintln Program.usage
  | _ => pure ()
  return UInt32.ofNat exit.code
