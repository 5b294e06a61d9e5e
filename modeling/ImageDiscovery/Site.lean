import ImageDiscovery.Fetch.Request
import ImageDiscovery.Json.Basic
import ImageDiscovery.Page

/-!
# Site — servers that answer from memory

A site holds what it serves at each place: a page with a status, or a fault in place of an answer.
Places may also send their readers elsewhere.  Whatever is nowhere to be found is answered by 404.
-/

namespace ImageDiscovery

open Fetch

/-- A scheme, and a host with a path that does not end in a slash. -/
structure Place where
  scheme : Text
  location : Text
deriving DecidableEq

namespace Place

def trimmed (location : Text) : Text := location.dropEndWhile (· = .char '/')

def ofLocation (scheme location : Text) : Place := ⟨scheme, trimmed location⟩

/-- The place of a URL, as people read it. -/
def ofUrl (u : Url) : Place :=
  ofLocation u.scheme (u.hostName.toOption.getD u.host ++ u.pathName)

def toText (place : Place) : Text := place.scheme ++ "://" ++ place.location

end Place

inductive Route where
  | page (status : Int) (body : Bytes)
  | fault (fault : TransportFault)
deriving DecidableEq

/-- The status of an answer that sends its reader elsewhere, and where to. -/
structure Detour where
  status : Int
  target : Option Text
deriving DecidableEq

structure Site where
  /-- What was added last comes first. -/
  routes : List (Place × Route) := []
  /-- By the texts of their places. -/
  detours : Mapping Detour := {}

namespace Site

def add (site : Site) (location scheme : Text) (route : Route) : Site :=
  { site with routes := (.ofLocation scheme location, route) :: site.routes }

def addDeclarations (site : Site) (location scheme : Text) (entries : List Page.Entry) : Site :=
  site.add location scheme (.page 200 (Page.ofDeclarations entries).utf8)

def addDocument (site : Site) (location scheme : Text) (document : Json) : Site :=
  site.add location scheme (.page 200 document.toText.utf8)

def addDetour (site : Site) (place : Text) (detour : Detour) : Site :=
  { site with detours := site.detours.insert place detour }

def route? (site : Site) (place : Place) : Option Route :=
  (site.routes.find? fun (p, _) => p = place).map Prod.snd

def notFound : Reply := .answer 404 none (Text.utf8 "Not Found")

/-- Answers a request: faults come before detours, and detours before pages. -/
def reply (site : Site) (request : Request) : Reply :=
  let place := Place.ofUrl request.url
  match site.route? place, site.detours.get? place.toText with
  | some (.fault fault), _ => .fault fault
  | _, some detour => .answer detour.status detour.target []
  | some (.page status body), none => .answer status none body
  | none, none => notFound

end Site

end ImageDiscovery
