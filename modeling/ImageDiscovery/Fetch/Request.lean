import ImageDiscovery.Error
import ImageDiscovery.HostHeaders
import ImageDiscovery.Text.Base64
import ImageDiscovery.Text.Encoding
import ImageDiscovery.Url

/-!
# Request — what a server is asked, and what it replies

A request names a URL and carries headers: those of the client itself, what was configured for the server,
and the host that is meant.  A user and a password in the URL become an `Authorization` header.  A server
is any function from requests to replies.
-/

namespace ImageDiscovery

namespace Fetch

/-! ## Headers -/

/-- Names in lower case with their values; a name may come more than once. -/
abbrev Headers := List (Text × Text)

namespace Headers

def has (headers : Headers) (name : Text) : Bool := headers.any fun (n, _) => n = name

def without (headers : Headers) (name : Text) : Headers := headers.filter fun (n, _) => n ≠ name

/-- The headers with one value for a name, whatever it had before. -/
def set (headers : Headers) (name value : Text) : Headers := headers.without name ++ [(name, value)]

/-- Headers over others: their names take none of the values that they had. -/
def onTopOf (headers others : Headers) : Headers :=
  (others.filter fun (n, _) => !headers.has n) ++ headers

/-- Headers as they were configured; names and values have to be ASCII. -/
def ofConfigured (configured : Mapping Text) : Except Unencodable Headers :=
  configured.toList.mapM fun (name, value) => do
    if let some u := name.notAscii then throw u
    if let some u := value.notAscii then throw u
    return (name.asciiLower, value)

end Headers

def accept : Text := "accept"

def acceptEncoding : Text := "accept-encoding"

def connection : Text := "connection"

def userAgent : Text := "user-agent"

def host : Text := "host"

def authorization : Text := "authorization"

def cookie : Text := "cookie"

/-- What a client sends with every request unless it is configured otherwise: that it takes anything, how
that may be packed, that it keeps the connection, and who asks. -/
def Headers.own (agent : Text) : Headers :=
  [(accept, "*/*"), (acceptEncoding, "gzip, deflate"), (connection, "keep-alive"), (userAgent, agent)]

/-! ## Requests -/

structure Request where
  url : Url
  headers : Headers
  /-- Must the server prove who it is? -/
  verified : Bool
deriving DecidableEq

/-- The user and the password that a URL holds; `none` if both are empty. -/
def credentials? (u : Url) : Option (Text × Text) :=
  let (user, password) := u.userinfo.cut (.char ':')
  let user := Percent.decode user
  let password := Percent.decode (password.getD [])
  if user.isEmpty && password.isEmpty then none else some (user, password)

def basic (user password : Text) : Text :=
  "Basic " ++ Base64.encode (Text.utf8 (user ++ .char ':' :: password))

/-- The request for a URL.  Configured headers take the place of the client's own, and the
credentials of the URL that of a configured `Authorization`. -/
def Request.make? (url : Url) (agent : Text) (configured : Mapping Text) (verified : Bool) :
    Except Unencodable Request := do
  if let some u := agent.notAscii then throw u
  let headers := (← Headers.ofConfigured configured).onTopOf (.own agent)
  let headers := if headers.has host || url.host.isEmpty then headers else headers.set host url.netloc
  let headers := match credentials? url with
    | some (user, password) => headers.set authorization (basic user password)
    | none => headers
  return { url, headers, verified }

/-! ## Replies -/

inductive Reply where
  /-- A status, the place that the answer points to if it does, and a body. -/
  | answer (status : Int) (location : Option Text) (body : Bytes)
  /-- There is no answer. -/
  | fault (fault : TransportFault)
deriving DecidableEq

abbrev Server := Request → Reply

end Fetch

end ImageDiscovery
