import ImageDiscovery.App
import ImageDiscovery.Template
import ImageDiscovery.Text.Blank

/-!
# Declaration — what a page says about images

A page declares where images are by `<meta>` elements in the `ac-` namespace.  The content of such
an element is an identifier prefix, a space and a template; `Declaration.images`, `.keys` and
`.tagDocuments` render the templates that apply to an app.
-/

namespace ImageDiscovery

/-- A name in the `ac-` namespace, the prefix of the identifiers it is for, and a template. -/
structure Declaration where
  name : Text
  scope : Text
  template : Text
deriving DecidableEq

inductive Kind where
  | images
  | keys
  | tags
deriving DecidableEq

/-- The name under which a kind is reported. -/
def Kind.name : Kind → Text
  | .images => "aci_endpoints"
  | .keys => "public_keys"
  | .tags => "image_tags"

/-- The name that declarations of a kind have. -/
def Kind.declarationName : Kind → Text
  | .images => "ac-discovery"
  | .keys => "ac-discovery-pubkeys"
  | .tags => "ac-discovery-tags"

def Kind.title (kindName : Text) : Text := kindName.replace (.char '_') " "

/-- Where an artifact is and where its detached signature is. -/
structure Endpoint where
  artifact : Text
  signature : Text
deriving DecidableEq

/-- What a declaration of a kind gives: a place with its signature, or the place of a key. -/
abbrev Kind.Item : Kind → Type
  | .images => Endpoint
  | .keys => Text
  | .tags => Endpoint

instance (kind : Kind) : DecidableEq kind.Item :=
  match kind with
  | .images => inferInstanceAs (DecidableEq Endpoint)
  | .keys => inferInstanceAs (DecidableEq Text)
  | .tags => inferInstanceAs (DecidableEq Endpoint)

namespace Declaration

/-- Names of declarations begin with this. -/
def namespaceMark : Text := "ac-"

/-- Reads a `<meta>` element; `none` if its name is none of ours or its content has no two parts. -/
def ofMeta? (name content : Text) : Option Declaration :=
  let (scope, rest) := content.trim.cut (.char ' ')
  let template := (rest.getD []).trim
  if namespaceMark.isPrefixOf name && !scope.isEmpty && !template.isEmpty then
    some ⟨name, scope, template⟩
  else none

/-- A declaration is for every identifier that its scope starts. -/
def appliesTo (d : Declaration) (name : Text) : Bool := d.scope.isPrefixOf name

/-- The declarations of a kind that are for an app, in their order. -/
def applicable (declarations : List Declaration) (kind : Kind) (app : App) : List Declaration :=
  declarations.filter fun d => d.name = kind.declarationName && d.appliesTo app.name

def extension : Text := "ext"

def artifactExtension : Text := "aci"

def signatureExtension : Text := "aci.asc"

/-- Both texts that a template gives for the extension, if nothing else is left open in either. -/
def endpoint? (template : Text) : Option Endpoint := do
  let signature ← Template.render? template [(extension, signatureExtension)]
  let artifact ← Template.render? template [(extension, artifactExtension)]
  return ⟨artifact, signature⟩

/-- The images of an app; the extension is filled in after the app's own variables. -/
def images (declarations : List Declaration) (app : App) : List Endpoint :=
  (applicable declarations .images app).filterMap fun d =>
    endpoint? (Template.render d.template app.substitutes)

def keys (declarations : List Declaration) (app : App) : List Text :=
  (applicable declarations .keys app).filterMap fun d => Template.render? d.template app.substitutes

/-- The tag documents of an app.  All versions share them, so only the name is filled in. -/
def tagDocuments (declarations : List Declaration) (app : App) : List Endpoint :=
  (applicable declarations .tags app).filterMap fun d =>
    endpoint? (Template.render d.template [(reservedLabel, app.name)])

def items (declarations : List Declaration) (app : App) : (kind : Kind) → List kind.Item
  | .images => images declarations app
  | .keys => keys declarations app
  | .tags => tagDocuments declarations app

end Declaration

end ImageDiscovery
