import ImageDiscovery.Log
import ImageDiscovery.Text.Quoted

/-!
# Log setup — where records go

Logging is set up once, by the first that needs it or by whoever asks for it by force.  A setup
chooses a form, a least severity and the name of the service; arguments come before the environment,
and the environment before the defaults.  The handler is put in place before the severity is known to
be a usable one, so a setup that fails for it has changed the form of the records, and nothing else.
-/

namespace ImageDiscovery

namespace Log

inductive Form where
  /-- As JSON, one object on a line. -/
  | json
  /-- For people to read. -/
  | console
deriving DecidableEq

/-- Where the setup stands. -/
structure State where
  configured : Bool := false
  /-- Records of a lower rank are dropped. -/
  threshold : Int := Severity.warning.rank
  /-- The forms that each record is written in, one for each handler. -/
  handlers : List Form := [.console]
  /-- What every record carries. -/
  context : Mapping Json := {}

/-- Why a setup failed: its least severity is none. -/
inductive SetupError where
  /-- The name means nothing. -/
  | unknownName (name : Text)
  /-- The name means a text that is not the name of a severity. -/
  | unknownLevel (value : Text)
  /-- The name means something else, shown as here. -/
  | notALevel (shown : Text)
deriving DecidableEq

def SetupError.message : SetupError → Text
  | .unknownName name => "module 'logging' has no attribute '" ++ name ++ "'"
  | .unknownLevel value => "Unknown level: " ++ value.quoted
  | .notALevel shown => "Level not an integer or a valid string: " ++ shown

def levelNames : List (Text × Int) :=
  [("CRITICAL", 50), ("FATAL", 50), ("ERROR", 40), ("WARNING", 30), ("WARN", 30), ("INFO", 20),
    ("DEBUG", 10), ("NOTSET", 0)]

/-- Names of switches, all of them on; a switch that is on passes for the rank one. -/
def switchNames : List Text :=
  ["raiseExceptions", "logThreads", "logMultiprocessing", "logProcesses"]

/-- Stands for what differs from one interpreter to the next: an address, a path, or what the library says
of itself. -/
def elided : Text := "..."

/-- Names of texts, and the texts; none is the name of a severity. -/
def heldTexts : List (Text × Text) :=
  [("BASIC_FORMAT", "%(levelname)s:%(name)s:%(message)s"), ("__name__", "logging"),
    ("__package__", "logging"), ("__status__", "production"), ("__version__", "0.5.1.2"),
    ("__date__", "07 February 2010"), ("__author__", elided), ("__doc__", elided),
    ("__file__", elided), ("__cached__", elided), ("_srcfile", elided)]

/-- Names of the classes that logging is made of, under their own names. -/
def classNames : List Text :=
  ["BufferingFormatter", "FileHandler", "Filter", "Filterer", "Formatter", "Handler", "LogRecord",
    "Logger", "LoggerAdapter", "Manager", "NullHandler", "PercentStyle", "PlaceHolder",
    "RootLogger", "StrFormatStyle", "StreamHandler", "StringTemplateStyle", "_StderrHandler"]

/-- Classes under names of other kinds. -/
def borrowedClasses : List (Text × Text) :=
  [("GenericAlias", "types.GenericAlias"), ("Template", "string.Template"), ("__class__", "module"),
    ("_logRecordFactory", "logging.LogRecord"), ("_loggerClass", "logging.Logger")]

def functionNames : List Text :=
  ["_acquireLock", "_addHandlerRef", "_after_at_fork_child_reinit_locks", "_checkLevel",
    "_is_internal_frame", "_register_at_fork_reinit_lock", "_releaseLock", "_removeHandlerRef",
    "_showwarning", "addLevelName", "basicConfig", "captureWarnings", "critical", "debug", "disable",
    "error", "exception", "fatal", "getLevelName", "getLevelNamesMapping", "getLogRecordFactory",
    "getLogger", "getLoggerClass", "info", "log", "makeLogRecord", "setLogRecordFactory",
    "setLoggerClass", "shutdown", "warn", "warning"]

def moduleNames : List Text :=
  ["atexit", "collections", "io", "os", "re", "sys", "threading", "time", "traceback", "warnings",
    "weakref"]

/-- Names of tables and other objects. -/
def objectNames : List Text :=
  ["_STYLES", "_at_fork_reinit_lock_weakset", "_defaultFormatter", "_defaultLastResort",
    "_handlerList", "_handlers", "_levelToName", "_lock", "_nameToLevel", "_startTime",
    "_str_formatter", "_warnings_showwarning", "currentframe", "lastResort", "root"]

/-- Names of what every module has. -/
def innerNames : List Text :=
  ["__all__", "__annotations__", "__builtins__", "__delattr__", "__dict__", "__dir__", "__eq__",
    "__format__", "__ge__", "__getattribute__", "__getstate__", "__gt__", "__hash__", "__init__",
    "__init_subclass__", "__le__", "__loader__", "__lt__", "__ne__", "__new__", "__path__",
    "__reduce__", "__reduce_ex__", "__repr__", "__setattr__", "__sizeof__", "__spec__", "__str__",
    "__subclasshook__"]

/-- What is shown of something that logging holds and that is neither a number nor a text. -/
def shownPart? (name : Text) : Option Text :=
  if name ∈ classNames then some ("<class 'logging." ++ name ++ "'>")
  else if name ∈ functionNames then some ("<function " ++ name ++ " at " ++ elided ++ ">")
  else if name ∈ moduleNames then some ("<module '" ++ name ++ "' " ++ elided ++ ">")
  else if name ∈ objectNames ++ innerNames then some elided
  else (borrowedClasses.find? fun (known, _) => known = name).map fun (_, shown) =>
    "<class '" ++ shown ++ "'>"

/-- The rank that a name means, or how it is told that it means none. -/
def levelOf (name : Text) : Except SetupError Int :=
  match levelNames.find? fun (known, _) => known = name with
  | some (_, rank) => .ok rank
  | none =>
    if name ∈ switchNames then .ok 1
    else match heldTexts.find? fun (known, _) => known = name with
      | some (_, text) => .error (.unknownLevel text)
      | none => match shownPart? name with
        | some shown => .error (.notALevel shown)
        | none => .error (.unknownName name)

/-- What a setup is asked for; nothing and an empty text both leave the choice open. -/
structure Setup where
  form : Option Text := none
  level : Option Text := none
  service : Option Text := none
  force : Bool := false

def defaultForm : Text := "console"

def defaultLevel : Text := "WARNING"

def defaultService : Text := "acdiscovery"

/-- The argument if it says anything, or else the setting from the environment, or else the default. -/
def choose (argument : Option Text) (setting : Option Text) (fallback : Text) : Text :=
  match argument.filter (!·.isEmpty) with
  | some given => given
  | none => setting.getD fallback

def Setup.formText (s : Setup) (env : Environment) : Text :=
  choose s.form ((env.get? Environment.logFormat).map Text.lower) defaultForm

def Setup.levelText (s : Setup) (env : Environment) : Text :=
  choose s.level ((env.get? Environment.logLevel).map Text.upper) defaultLevel

def Setup.serviceText (s : Setup) (env : Environment) : Text :=
  choose s.service (env.get? Environment.serviceName) defaultService

def serviceField : Text := "service"

namespace State

/-- Sets up logging, unless that was done before and is not forced. -/
def configure (env : Environment) (setup : Setup) (state : State) : State × Option SetupError :=
  if state.configured && !setup.force then (state, none)
  else
    let form := if setup.formText env = "json" then Form.json else Form.console
    let installed := { state with handlers := [form] }
    match levelOf (setup.levelText env) with
    | .error e => (installed, some e)
    | .ok rank =>
      ({ installed with
          configured := true
          threshold := rank
          context := state.context.insert serviceField (.text (setup.serviceText env)) }, none)

/-- Adds to what every record carries. -/
def bind (fields : List (Text × Json)) (state : State) : State :=
  { state with context := fields.foldl (fun context (name, value) => context.insert name value) state.context }

structure Written where
  /-- How many lines, in any form. -/
  lines : Nat := 0
  /-- The records among them that were written as JSON. -/
  records : List Json := []

def admits (state : State) (severity : Severity) : Bool := state.threshold ≤ severity.rank

def write (state : State) (r : Record) : Written :=
  if state.admits r.severity then
    { lines := state.handlers.length
      records := (state.handlers.filter (· = .json)).map fun _ => r.toJson state.context }
  else {}

/-- Writes a record; a logger that finds logging not set up sets it up first. -/
def emit (env : Environment) (r : Record) (state : State) : State × Except SetupError Written :=
  match state.configure env {} with
  | (state, some e) => (state, .error e)
  | (state, none) => (state, .ok (state.write r))

end State

end Log

end ImageDiscovery
