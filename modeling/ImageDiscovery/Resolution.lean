import ImageDiscovery.Validation.Members
import ImageDiscovery.Walk

/-!
# Resolution — from an app and a tag to places and keys

A tag is resolved first: by the tag data that is declared for the app, or, if there is none, as the
version.  With the labels that it gives, images are looked for, which have to be found, and then
public keys, which need not.  Every walk stands for itself.
-/

namespace ImageDiscovery

open Fetch

/-- What is known of an app in the end. -/
structure Resolution where
  /-- The app with the labels of its tag. -/
  app : App
  images : List Endpoint
  keys : List Text
  /-- Where tag data was found, if a tag was resolved by it. -/
  tagDocument : Option Endpoint
  /-- The attempts of each walk, in the order of the walks. -/
  attempts : List (Kind × List Attempt)

/-- What is known of an app when its tag is resolved. -/
structure Tagged where
  app : App
  tagDocument : Option Endpoint
  attempts : List (Kind × List Attempt)

namespace Resolution

def tagLogger : Text := "acdiscovery.discovery.tags"

def logger : Text := "acdiscovery.discovery.resolver"

def record (app : App) (severity : Log.Severity) (event : Text) (fields : List (Text × Json)) :
    Log.Record :=
  { severity, logger, event, fields := ("app", .text app.name) :: fields }

def fetchedRecord (url : Text) (data : TagData) : Log.Record where
  severity := .debug
  logger := tagLogger
  event := "acdiscovery.tags.fetched"
  fields := [("url", .text (Url.masked url)), ("aliases", .int data.aliases.size),
    ("tags", .int data.labels.size)]

def noTagDataRecord (app : App) (tag : Text) : Log.Record :=
  record app .info "acdiscovery.resolve.no_tag_endpoint" [("tag", .text tag)]

def mergedRecord (app : App) (tag : Text) (labels : Mapping Text) : Log.Record :=
  record app .debug "acdiscovery.resolve.tag_merged"
    [("tag", .text tag), ("labels", .object (labels.map Json.text).toList)]

def noKeysRecord (app : App) : Log.Record := record app .info "acdiscovery.resolve.no_public_keys" []

end Resolution

open Resolution

namespace Client

def fetchTagData (client : Client) (document : Endpoint) (allowance : Allowance) :
    Run Error TagData := do
  let fetched ← (client.fetch document.artifact allowance).mapError .fetch
  match TagData.ofBytes? fetched.body with
  | .error cause => .fail (.invalidDocument fetched.url cause)
  | .ok data =>
    Run.told (fetchedRecord fetched.url data)
    return data

def walk (client : Client) (app : App) (kind : Kind) (allowance : Allowance) :
    Run Exhaustion (Found kind) :=
  ImageDiscovery.walk (client.pages allowance) app kind

/-- Looks for tag data.  That there is none is no failure; that it cannot be fetched is one. -/
def findTagData (client : Client) (app : App) (tag : Text) (allowance : Allowance) :
    Run Error (List Attempt × Option (Endpoint × TagData)) :=
  (client.walk app .tags allowance).either
    (fun exhaustion => do
      Run.told (noTagDataRecord app tag)
      return (exhaustion.attempts, none))
    (fun found => do
      let data ← client.fetchTagData found.first allowance
      return (found.attempts, some (found.first, data)))

def mergedApp (app : App) (data : Option TagData) (tag : Text) : Except Error App := do
  let labels ← (mergeTag app.labels data (some tag)).mapError .tag
  app.withLabels labels

/-- Resolves a tag; an empty one is none. -/
def resolveTag (client : Client) (app : App) (tag : Option Text) (allowance : Allowance) :
    Run Error Tagged :=
  match tag.filter (!·.isEmpty) with
  | none => pure ⟨app, none, []⟩
  | some tag => do
    let (attempts, found) ← client.findTagData app tag allowance
    let merged ← Run.ofExcept ((mergedApp app (found.map Prod.snd) tag).mapError .expected)
    Run.told (mergedRecord app tag merged.labels)
    return ⟨merged, found.map Prod.fst, [(.tags, attempts)]⟩

/-- Looks for public keys.  That there are none is no failure. -/
def findKeys (client : Client) (app : App) (allowance : Allowance) :
    Run Error (List Attempt × List Text) :=
  (client.walk app .keys allowance).either
    (fun exhaustion => do
      Run.told (noKeysRecord app)
      return (exhaustion.attempts, []))
    (fun found => return (found.attempts, found.items))

def resolve (client : Client) (app : App) (tag : Option Text) (allowance : Allowance) :
    Run Error Resolution := do
  let tagged ← client.resolveTag app tag allowance
  let images ← (client.walk tagged.app .images allowance).mapError .exhausted
  let (attempts, keys) ← client.findKeys tagged.app allowance
  return {
    app := tagged.app
    images := images.items
    keys
    tagDocument := tagged.tagDocument
    attempts := tagged.attempts ++ [(.images, images.attempts), (.keys, attempts)] }

end Client

end ImageDiscovery
