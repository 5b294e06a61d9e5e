import ImageDiscovery.Declaration
import ImageDiscovery.Tag
import ImageDiscovery.Json.Basic

/-!
# Error — what ends a discovery, and how it is told

A fetch fails by the status of an answer or before there is one.  A walk records its failed fetches
and the pages that declared nothing usable, and is exhausted when no prefix is left.  `Report` is
what callers get to see of an error: a code, a message and the details both speak about.
-/

namespace ImageDiscovery

/-! ## Reports -/

/-- A code, a message for people and the facts behind it. -/
structure Report where
  code : Text
  message : Text
  details : Mapping Json := {}

namespace Report

def withMessage (r : Report) (message : Text) : Report := { r with message }

/-- Adds details, which take the place of those with the same name. -/
def withDetails (r : Report) (more : List (Text × Json)) : Report :=
  { r with details := more.foldl (fun details (name, value) => details.insert name value) r.details }

def toJson (r : Report) : Json :=
  .object [("code", .text r.code), ("message", .text r.message), ("details", .object r.details.toList)]

def malformed (value reason : Text) : Report where
  code := "acdiscovery:parse/malformed_identifier"
  message := "Malformed app string " ++ value.quoted ++ ": " ++ reason
  details := .ofList [("value", .text value), ("reason", .text reason)]

def badStatus (url : Text) (status : Option Int) : Report where
  code := "acdiscovery:fetch/bad_status"
  message := "Expected a 2xx response from " ++ url ++ ", got "
    ++ (match status with | some n => Text.ofInt n | none => "None")
  details := .ofList [("url", .text url), ("status_code", (status.map Json.int).getD .null)]

def connectionFailed (url faultKind faultMessage : Text) : Report where
  code := "acdiscovery:fetch/connection_failed"
  message := "Failed to fetch " ++ url ++ ": " ++ faultKind ++ ": " ++ faultMessage
  details := .ofList
    [("url", .text url), ("status_code", .null), ("error_type", .text faultKind)]

/-- No prefix of an app's name had a page with usable declarations of a kind.  Each attempt is told
by its prefix and the message of its error. -/
def exhausted (kind app : Text) (attempts : List (Text × Text)) : Report where
  code := "acdiscovery:walk/exhausted"
  message := "No " ++ Kind.title kind ++ " discovered for " ++ app
  details := .ofList
    [("kind", .text kind), ("app_name", .text app),
      ("attempts", .array (attempts.map fun (place, error) =>
        .object [("prefix", .text place), ("error", .text error)]))]

def nothingUsable (url kind : Text) : Report where
  code := "acdiscovery:walk/no_matching_meta"
  message := "No usable " ++ Kind.title kind ++ " declarations at " ++ url
  details := .ofList [("url", .text url), ("kind", .text kind)]

def circularAlias (tag : Text) (chain : List Text) : Report where
  code := "acdiscovery:tags/circular_alias"
  message := "Circular dependency between tag aliases: " ++ Text.join " -> " chain
  details := .ofList [("tag", .text tag), ("chain", .array (chain.map Json.text))]

def versionTaken (tag version : Text) : Report where
  code := "acdiscovery:tags/version_conflict"
  message := "Cannot set tag " ++ tag.quoted
    ++ " as version label since version label is already defined (" ++ version.quoted ++ ")"
  details := .ofList [("tag", .text tag), ("version", .text version)]

def invalidDocument (url reason : Text) : Report where
  code := "acdiscovery:tags/invalid_document"
  message := "Invalid image tags document at " ++ url ++ ": " ++ reason
  details := .ofList [("url", .text url), ("reason", .text reason)]

end Report

/-! ## Failed fetches -/

/-- What went wrong on the way to a server: the name of the kind of fault, and what was said. -/
structure TransportFault where
  kind : Text
  message : Text
deriving DecidableEq

/-- The kinds of faults that end an attempt: those of requests and of what comes back, and texts that are
no URLs. -/
def TransportFault.expectedKinds : List Text :=
  ["HTTPError", "RequestError", "TransportError", "TimeoutException", "ConnectTimeout", "ReadTimeout",
    "WriteTimeout", "PoolTimeout", "NetworkError", "ConnectError", "ReadError", "WriteError",
    "CloseError", "ProtocolError", "LocalProtocolError", "RemoteProtocolError", "ProxyError",
    "UnsupportedProtocol", "DecodingError", "TooManyRedirects", "HTTPStatusError", "InvalidURL"]

/-- Any other fault is never taken for a failed fetch: a misuse of the connection, or an error that has
nothing to do with requests. -/
def TransportFault.isMisuse (f : TransportFault) : Bool := f.kind ∉ expectedKinds

/-- The kind of fault that a text which is no URL causes. -/
def TransportFault.invalidUrl (message : Text) : TransportFault := ⟨"InvalidURL", message⟩

/-- Why a URL gave no document; the URL is the last one that was asked for. -/
inductive FetchError where
  | badStatus (url : Text) (status : Int)
  | connection (url : Text) (fault : TransportFault)
deriving DecidableEq

def FetchError.url : FetchError → Text
  | .badStatus url _ => url
  | .connection url _ => url

def FetchError.status? : FetchError → Option Int
  | .badStatus _ status => some status
  | .connection _ _ => none

def FetchError.report : FetchError → Report
  | .badStatus url status => .badStatus url (some status)
  | .connection url fault => .connectionFailed url fault.kind fault.message

/-! ## Failed walks -/

inductive AttemptError where
  | fetch (error : FetchError)
  | nothingUsable (url : Text) (kind : Kind)
deriving DecidableEq

def AttemptError.report : AttemptError → Report
  | .fetch error => error.report
  | .nothingUsable url kind => .nothingUsable url kind.name

structure Attempt where
  place : Text
  error : AttemptError
deriving DecidableEq

/-- The prefix of an attempt and the message of its error. -/
def Attempt.told (a : Attempt) : Text × Text := (a.place, a.error.report.message)

/-- No prefix satisfied a walk for a kind and an app; the attempts are in the order of the walk. -/
structure Exhaustion where
  kind : Kind
  app : Text
  attempts : List Attempt
deriving DecidableEq

def Exhaustion.report (e : Exhaustion) : Report :=
  .exhausted e.kind.name e.app (e.attempts.map Attempt.told)

/-! ## All errors -/

inductive Error where
  | malformed (value reason : Text)
  | fetch (error : FetchError)
  | exhausted (walk : Exhaustion)
  | tag (problem : TagProblem)
  | invalidDocument (url : Text) (cause : Invalid)
deriving DecidableEq

/-- How many faults a value has, as the reason why it was refused. -/
def Invalid.count (e : Invalid) : Text := Text.ofNat e.faults.length ++ " validation error(s)"

def Error.report : Error → Report
  | .malformed value reason => .malformed value reason
  | .fetch error => error.report
  | .exhausted walk => walk.report
  | .tag (.circular start chain) => .circularAlias start chain
  | .tag (.versionTaken wanted version) => .versionTaken wanted version
  | .invalidDocument url cause => .invalidDocument url cause.count

def Error.attempts : Error → List Attempt
  | .exhausted walk => walk.attempts
  | _ => []

/-! ## Apps from text and from labels -/

def App.ofText? (t : Text) : Except Error App :=
  (App.read t).mapError fun problem => .malformed t problem.message

/-- The app with other labels; the error shows the app as it was. -/
def App.withLabels (app : App) (labels : Mapping Text) : Except Error App :=
  (App.make? app.name labels).mapError fun cause => .malformed app.toText cause.reasons

end ImageDiscovery
