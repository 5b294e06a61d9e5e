import ImageDiscovery.Fetch.Config
import ImageDiscovery.Fetch.Exchange
import ImageDiscovery.Url.Masked

/-!
# Client — how documents are fetched

A client holds what every fetch depends on.  It asks for a document over HTTPS and, if that fails and
plain text is allowed, once more over HTTP.  `Client.fetch` fetches a URL and `Client.fetchPage` the
discovery page of a prefix.
-/

namespace ImageDiscovery

/-- A document and where it was in the end. -/
structure Document where
  url : Text
  body : Bytes
deriving DecidableEq

def discoveryQuery : Text := "ac-discovery=1"

def discoveryUrl (place scheme : Text) : Text :=
  scheme ++ "://" ++ place ++ .char '?' :: discoveryQuery

open Fetch

/-- What fetches depend on: headers to send, a configuration, the servers, and the environment, which
decides what may be logged. -/
structure Client where
  hostHeaders : HostHeaders := {}
  config : Config
  server : Server
  environment : Environment := {}

namespace Client

/-- A client with the configuration that the environment asks for; what is wrong with that is
logged. -/
def ofEnvironment {ε : Type} (environment : Environment) (hostHeaders : HostHeaders)
    (server : Server) : Run ε Client :=
  let (config, warnings) := Config.ofEnvironment environment
  ⟨.ok { hostHeaders, config, server, environment }, { records := warnings }⟩

/-- The headers for a URL: those for its host and port, or else those for its host. -/
def headersFor (client : Client) (url : Url) : Except Breakdown (Mapping Text) := do
  if let some u := url.netloc.notAscii then throw (.unencodable u)
  let name ← url.hostName.mapError .hostName
  return (client.hostHeaders.get? url.netloc).getD ((client.hostHeaders.get? name).getD {})

def attemptRecord (client : Client) (target : Text) (verified : Bool) (headers : Mapping Text) :
    Log.Record where
  severity := .debug
  logger := Fetch.logger
  event := "acdiscovery.fetch.attempt"
  fields := [("url", .text (Url.masked target)), ("verify", .bool verified),
    ("headers", .object (Log.redact client.environment
      (headers.toList.map fun (name, value) => (name, .text value))))]

/-- What is logged when an attempt over HTTPS failed and another one follows. -/
def fallbackRecord (error : FetchError) : Log.Record where
  severity := .debug
  logger := Fetch.logger
  event := "acdiscovery.fetch.https_failed"
  fields := [("url", .text (Url.masked error.url)),
    ("status_code", (error.status?.map Json.int).getD .null),
    ("error", .text error.report.message)]

/-- The request for a URL.  Without a scheme or a host it cannot be said which server is asked. -/
def request (client : Client) (url : Url) (configured : Mapping Text) (verified : Bool) :
    Except (Failure TransportFault) Request := do
  let url ← if url.isRelative then orInvalidUrl url.localPart else pure url
  (Request.make? url client.config.userAgent configured verified).mapError fun u =>
    .breakdown (.unencodable u)

/-- Asks for a URL that can be read. -/
def ask (client : Client) (target : Text) (url : Url) (verified : Bool) :
    Run TransportFault Answer := do
  let headers ← Run.ofExcept ((client.headersFor url).mapError .breakdown)
  Run.told (client.attemptRecord target verified headers)
  let request ← Run.ofExcept (client.request url headers verified)
  exchange client.server client.config.followRedirects request

def documentOf (target : Text) (answer : Answer) : Run FetchError Document :=
  if answer.isSuccess then pure ⟨answer.url.toText, answer.body⟩
  else .fail (.badStatus target answer.status)

/-- One attempt to fetch a URL, with a scheme instead of its own. -/
def attempt (client : Client) (url scheme : Text) (verified : Bool) : Run FetchError Document := do
  let target ← Run.ofExcept ((Url.replaceScheme url scheme).mapError fun problem =>
    .expected (.connection url (.invalidUrl problem.message)))
  let parsed ← Run.ofExcept ((Url.parse target).mapError fun problem =>
    .expected (.connection target (.invalidUrl problem.message)))
  let answer ← (client.ask target parsed verified).mapError (.connection target)
  documentOf target answer

/-- Fetches a URL: over HTTPS and, if that fails and is allowed, over HTTP.  The scheme that the URL
has does not matter. -/
def fetch (client : Client) (url : Text) (allowance : Allowance) : Run FetchError Document :=
  (client.attempt url "https" !allowance.unverified).either
    (fun error =>
      if allowance.plaintext then do
        Run.told (fallbackRecord error)
        client.attempt url "http" true
      else .fail error)
    pure

def fetchPage (client : Client) (place : Text) (allowance : Allowance) : Run FetchError Document :=
  client.fetch (discoveryUrl place "https") allowance

end Client

end ImageDiscovery
