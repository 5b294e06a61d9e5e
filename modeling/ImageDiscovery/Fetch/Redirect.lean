import ImageDiscovery.Fetch.Run

/-!
# Redirect — where an answer sends its reader

Some answers only say where the document is.  That place is read in relation to the URL that was
asked for, and the next request carries the headers of the last one, except for those that are meant
for its server alone.
-/

namespace ImageDiscovery

namespace Fetch

def redirectStatuses : List Int := [301, 302, 303, 307, 308]

def badLocation (problem : Url.Problem) : TransportFault :=
  ⟨"RemoteProtocolError", "Invalid URL in location header: " ++ problem.message ++ "."⟩

/-- Problems with names of hosts are breakdowns. -/
def orBreakdown {α : Type} (x : Except Idna.Problem α) : Except (Failure TransportFault) α :=
  x.mapError fun problem => .breakdown (.hostName problem)

/-- A text that is not a URL is a fault of the connection. -/
def orInvalidUrl {α : Type} (x : Except Url.Problem α) : Except (Failure TransportFault) α :=
  x.mapError fun problem => .expected (.invalidUrl problem.message)

/-- The URL that a location names.  One with a scheme and without a host is on the host that was
asked. -/
def locationUrl (asked : Url) (location : Text) : Except (Failure TransportFault) Url := do
  let url ← (Url.parse location).mapError fun problem => .expected (badLocation problem)
  if url.scheme.isEmpty then return url
  if !(← orBreakdown url.hostName).isEmpty then return url
  orInvalidUrl (url.withHost (← orBreakdown asked.hostName))

/-- What a URL means where another one was asked for. -/
def joinedUrl (asked url : Url) : Except (Failure TransportFault) Url :=
  if url.isRelative then do
    let joined ← (LooseUrl.resolve asked.toText url.toText).mapError fun problem =>
      .breakdown (.badPlace problem)
    orInvalidUrl (Url.parse joined)
  else return url

/-- A URL with the fragment that was asked for, unless it has one. -/
def keepFragment (asked url : Url) : Except (Failure TransportFault) Url :=
  match asked.fragment.filter (!·.isEmpty) with
  | some fragment =>
    if (url.fragment.getD []).isEmpty then orInvalidUrl (url.withFragment (Percent.decode fragment))
    else return url
  | none => return url

/-- The URL that a location means when `asked` was asked for. -/
def redirectTarget (asked : Url) (location : Text) : Except (Failure TransportFault) Url := do
  let url ← locationUrl asked location
  let joined ← joinedUrl asked url
  keepFragment asked joined

/-- Where a URL leads: the scheme, the name of the host and the port. -/
structure Origin where
  scheme : Text
  host : Text
  port : Option Int
deriving DecidableEq

def originOf (u : Url) : Except Idna.Problem Origin := do
  return ⟨u.scheme, ← u.hostName, u.effectivePort⟩

/-- From plain HTTP to HTTPS on the same host, both on their own ports. -/
def isUpgrade (a b : Origin) : Bool :=
  a.host = b.host && a.scheme = "http" && a.port = some 80 && b.scheme = "https" && b.port = some 443

/-- The headers for a URL that a request is sent on to.  Cookies are never sent on, and what
authorizes a request is only sent on to the origin it was for and to its secure form. -/
def redirectHeaders (request : Request) (url : Url) : Except (Failure TransportFault) Headers := do
  let next ← orBreakdown (originOf url)
  let last ← orBreakdown (originOf request.url)
  let headers ←
    if next = last then pure request.headers
    else do
      if let some u := url.netloc.notAscii then throw (.breakdown (.unencodable u))
      let headers :=
        if isUpgrade last next then request.headers else request.headers.without authorization
      pure (headers.set host url.netloc)
  return headers.without cookie

/-- The request that follows one whose answer points to a location. -/
def Request.redirected (request : Request) (location : Text) :
    Except (Failure TransportFault) Request := do
  let url ← redirectTarget request.url location
  return { request with url, headers := ← redirectHeaders request url }

end Fetch

end ImageDiscovery
