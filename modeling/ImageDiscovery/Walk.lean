import ImageDiscovery.Fetch.Client
import ImageDiscovery.Page.Declarations

/-!
# Walk — from the most specific prefix to the least

A walk visits the prefixes of an app's name one after another, the whole name first, and ends at the
first whose page declares something of a kind for the app.  The prefixes before it are recorded as
attempts, each with the reason why it did not satisfy the walk.  If none does, the walk is exhausted.
-/

namespace ImageDiscovery

/-- What a walk found, and where; the attempts are those before that prefix. -/
structure Found (kind : Kind) where
  items : List kind.Item
  items_ne_nil : items ≠ []
  attempts : List Attempt
  place : Text

namespace Found

def first {kind : Kind} (found : Found kind) : kind.Item := found.items.head found.items_ne_nil

end Found

abbrev PageSource := Text → Run FetchError Document

namespace Walk

def logger : Text := "acdiscovery.discovery.walk"

/-- A record of a walk, which names the app and the kind that it is for. -/
def record (app : App) (kind : Kind) (severity : Log.Severity) (event : Text)
    (fields : List (Text × Json)) : Log.Record :=
  { severity, logger, event
    fields := ("app", .text app.name) :: ("kind", .text kind.name) :: fields }

def failedRecord (app : App) (kind : Kind) (place : Text) (error : FetchError) : Log.Record :=
  record app kind .debug "acdiscovery.walk.prefix_failed"
    [("prefix", .text place), ("error", .text error.report.message)]

def satisfiedRecord (app : App) (kind : Kind) (place url : Text) (count : Nat) : Log.Record :=
  record app kind .debug "acdiscovery.walk.satisfied"
    [("prefix", .text place), ("url", .text (Url.masked url)), ("count", .int count)]

def unmatchedRecord (app : App) (kind : Kind) (place : Text) : Log.Record :=
  record app kind .debug "acdiscovery.walk.no_match" [("prefix", .text place)]

def exhaustedRecord (app : App) (kind : Kind) (attempts : List Attempt) : Log.Record :=
  record app kind .info "acdiscovery.walk.exhausted" [("attempts", .int attempts.length)]

/-- Visits prefixes in turn, after some attempts. -/
def visit (source : PageSource) (app : App) (kind : Kind) (attempts : List Attempt) :
    List Text → Run Exhaustion (Found kind)
  | [] => do
    Run.told (exhaustedRecord app kind attempts)
    .fail ⟨kind, app.name, attempts⟩
  | place :: rest =>
    (source place).either
      (fun error => do
        Run.told (failedRecord app kind place error)
        visit source app kind (attempts ++ [⟨place, .fetch error⟩]) rest)
      (fun document =>
        let items := Declaration.items (Page.declarations document.body) app kind
        if h : items = [] then do
          Run.told (unmatchedRecord app kind place)
          visit source app kind (attempts ++ [⟨place, .nothingUsable document.url kind⟩]) rest
        else do
          Run.told (satisfiedRecord app kind place document.url items.length)
          return ⟨items, h, attempts, place⟩)

end Walk

def walk (source : PageSource) (app : App) (kind : Kind) : Run Exhaustion (Found kind) :=
  Walk.visit source app kind [] app.namespaces

namespace Client

def pages (client : Client) (allowance : Allowance) : PageSource :=
  fun place => client.fetchPage place allowance

end Client

end ImageDiscovery
