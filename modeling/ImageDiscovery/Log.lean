import ImageDiscovery.Environment
import ImageDiscovery.Json.Basic
import ImageDiscovery.Text.Blank
import ImageDiscovery.Text.Case

/-!
# Log — what happened, told in records

A record names an event and carries fields.  Values that may be secret are told by their keys and
never written, unless the user asks for them in debug mode; `Log.redact` is the one place where that
is decided.
-/

namespace ImageDiscovery

namespace Log

inductive Severity where
  | debug
  | info
  | warning
  | error
  | critical
deriving DecidableEq

def Severity.name : Severity → Text
  | .debug => "debug"
  | .info => "info"
  | .warning => "warning"
  | .error => "error"
  | .critical => "critical"

/-- Severities compare by these numbers. -/
def Severity.rank : Severity → Int
  | .debug => 10
  | .info => 20
  | .warning => 30
  | .error => 40
  | .critical => 50

/-- An event, how grave it is, who reports it, and its fields; of fields with one name the last one
counts. -/
structure Record where
  severity : Severity
  logger : Text
  event : Text
  fields : List (Text × Json) := []

/-- What a record itself is, as fields. -/
def Record.head (r : Record) : List (Text × Json) :=
  [("event", .text r.event), ("level", .text r.severity.name), ("logger", .text r.logger)]

/-- The field that the time of writing is put into, whatever it held before. -/
def timeField : Text := "timestamp"

/-- The record as it is written, its time left out: the fields stand over the context, and its head
over both. -/
def Record.toJson (context : Mapping Json) (r : Record) : Json :=
  .object ((Mapping.ofList (context.toList ++ r.fields ++ r.head)).toList.filter (·.1 ≠ timeField))

/-! ## Secrets -/

/-- A key that has one of these in it, in whatever case, is the key of a secret. -/
def secretMarks : List Text := ["password", "token", "secret", "authorization", "auth", "cookie"]

def isSecret (key : Text) : Bool :=
  let lowered := key.lower
  secretMarks.any fun mark => mark.isWithin lowered

def redacted : Text := "***REDACTED***"

mutual

/-- Secrets are replaced, whatever they are; other objects are looked into, and nothing else is. -/
def redactMembers : List (Text × Json) → List (Text × Json)
  | [] => []
  | (key, value) :: rest =>
    (key, if isSecret key then .text redacted else redactValue value) :: redactMembers rest

def redactValue : Json → Json
  | .object members => .object (redactMembers members)
  | value => value

end

def debugMode (env : Environment) : Bool :=
  (((env.get? Environment.debug).getD []).trim.lower) ∈ (["true", "1", "yes", "on"] : List Text)

/-- The members of an object as they may be written. -/
def redact (env : Environment) (members : List (Text × Json)) : List (Text × Json) :=
  if debugMode env then members else redactMembers members

end Log

end ImageDiscovery
