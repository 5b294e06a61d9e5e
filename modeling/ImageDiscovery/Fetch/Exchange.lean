import ImageDiscovery.Fetch.Redirect

/-!
# Exchange — a request and the answer it leads to

A request is sent, and redirects are followed to the last answer, unless there are too many of them.
-/

namespace ImageDiscovery

namespace Fetch

/-- The answer to a request, as it is received. -/
structure Answer where
  url : Url
  status : Int
  location : Option Text
  body : Bytes
deriving DecidableEq

namespace Answer

def isSuccess (a : Answer) : Bool := 200 ≤ a.status && a.status ≤ 299

/-- The place that the answer sends its reader to. -/
def redirect? (a : Answer) : Option Text :=
  if a.status ∈ redirectStatuses then a.location else none

end Answer

/-- A URL without its fragment, and the fragment. -/
def cutFragment (t : Text) : Text × Text :=
  if t.contains (.char '#') then Url.cutLast (.char '#') t else (t, [])

/-- Does a URL say what kind of URL it is?  Cookies are kept by kind, so an answer from elsewhere
cannot be received. -/
def tellsKind (t : Text) : Bool :=
  match (cutFragment t).1.cut (.char ':') with
  | (kind, some _) => !kind.isEmpty && !kind.contains (.char '/')
  | (_, none) => false

/-- The URL as it is shown to be of no kind; an empty fragment is not shown. -/
def shownUrl (t : Text) : Text :=
  let (rest, fragment) := cutFragment t
  if fragment.isEmpty then rest else rest ++ .char '#' :: fragment

def receive (request : Request) : Reply → Run TransportFault Answer
  | .fault fault => if fault.isMisuse then .breakdown (.misuse fault) else .fail fault
  | .answer status location body =>
    match location.bind Text.notAscii with
    | some u => .breakdown (.unencodable u)
    | none =>
      if tellsKind request.url.toText then pure ⟨request.url, status, location, body⟩
      else .breakdown (.unknownKind (shownUrl request.url.toText))

def send (server : Server) (request : Request) : Run TransportFault Answer := do
  Run.sent request
  receive request (server request)

def maxRedirects : Nat := 20

def tooManyRedirects : TransportFault := ⟨"TooManyRedirects", "Exceeded maximum allowed redirects."⟩

/-- Sends a request; if the answer points elsewhere, `next` is given the request for that place.  It
is made even if redirects are not to be followed, so it may fail even then. -/
def exchangeStep (server : Server) (follows : Bool) (next : Request → Run TransportFault Answer)
    (request : Request) : Run TransportFault Answer := do
  let answer ← send server request
  match answer.redirect? with
  | none => return answer
  | some location =>
    let redirected ← Run.ofExcept (request.redirected location)
    if follows then next redirected else return answer

/-- Sends a request and follows so many redirects at most. -/
def exchangeWithin (server : Server) (follows : Bool) : Nat → Request → Run TransportFault Answer
  | 0 => exchangeStep server follows fun _ => .fail tooManyRedirects
  | left + 1 => exchangeStep server follows (exchangeWithin server follows left)

/-- Sends a request and, if that is asked for, follows its redirects. -/
def exchange (server : Server) (follows : Bool) (request : Request) : Run TransportFault Answer :=
  exchangeWithin server follows maxRedirects request

end Fetch

end ImageDiscovery
