import ImageDiscovery.CommandLine.Arguments
import ImageDiscovery.HostHeaders

/-!
# Command — what the program is asked to do

The program has one command, `discover`, and options of its own before it.  Whoever asks for the
version or for help gets that and nothing else, whichever they asked for first.
-/

namespace ImageDiscovery

namespace CommandLine

inductive ProgramOption where
  | version
  | verbose
  | help
deriving DecidableEq

inductive DiscoverOption where
  | json
  | insecure
  | tag
  | header
  | help
deriving DecidableEq

def programForms : List (OptionForm ProgramOption) :=
  [{ key := .version, long := "--version" },
    { key := .verbose, long := "--verbose", short := some (.char 'v') },
    { key := .help, long := "--help" }]

def discoverForms : List (OptionForm DiscoverOption) :=
  [{ key := .json, long := "--json" },
    { key := .insecure, long := "--insecure" },
    { key := .tag, long := "--tag", short := some (.char 't'), takesValue := true },
    { key := .header, long := "--header", short := some (.char 'H'), takesValue := true },
    { key := .help, long := "--help" }]

/-- What is to be discovered, and how it is told. -/
structure Discover where
  names : List Text
  json : Bool := false
  insecure : Bool := false
  tag : Option Text := none
  hostHeaders : HostHeaders := {}

inductive Command where
  | version
  | help
  | discover (verbose : Bool) (what : Discover)
  /-- The words mean nothing. -/
  | misuse

def readDiscover (verbose : Bool) (words : List Text) : Command :=
  match Arguments.read? discoverForms true words with
  | none => .misuse
  | some arguments =>
    if arguments.has .help then .help
    else if arguments.operands.isEmpty then .misuse
    else match HostHeaders.ofOptions {} (arguments.values .header) with
    | .error _ => .misuse
    | .ok hostHeaders => .discover verbose {
        names := arguments.operands
        json := arguments.has .json
        insecure := arguments.has .insecure
        tag := arguments.last? .tag
        hostHeaders }

def Command.ofWords (words : List Text) : Command :=
  match Arguments.read? programForms false words with
  | none => .misuse
  | some arguments =>
    match arguments.options.find? fun (key, _) => key = .version || key = .help with
    | some (.version, _) => .version
    | some _ => .help
    | none =>
      match arguments.operands with
      | [] => .misuse
      | command :: rest =>
        if command = "discover" then readDiscover (arguments.has .verbose) rest else .misuse

end CommandLine

end ImageDiscovery
