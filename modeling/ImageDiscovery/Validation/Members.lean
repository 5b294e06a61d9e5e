import ImageDiscovery.Declaration
import ImageDiscovery.Tag
import ImageDiscovery.Json.Reader

/-!
# Members — values from the members of an object

Apps, declarations, endpoints and tag data are also built from named members.  All faults are
reported together: those of the fields in the order in which the type declares them, then the
members that no field takes in the order they came.  A field's own rule is asked only when its
members have the right shape.
-/

namespace ImageDiscovery

/-- A value, or everything that is wrong with the members it should be built from. -/
abbrev Checked (α : Type) := Except (List Fault) α

namespace Checked

/-- Both values, or the faults of both. -/
def both {α β : Type} : Checked α → Checked β → Checked (α × β)
  | .ok a, .ok b => .ok (a, b)
  | .ok _, .error faults => .error faults
  | .error faults, .ok _ => .error faults
  | .error first, .error second => .error (first ++ second)

def all {α : Type} : List (Checked α) → Checked (List α)
  | [] => .ok []
  | first :: rest => (both first (all rest)).map fun (value, values) => value :: values

end Checked

namespace Members

/-- Where members come from decides how a wrong shape is told. -/
inductive Origin where
  /-- Values in hand. -/
  | values
  /-- A document. -/
  | document
deriving DecidableEq

def Origin.badShape : Origin → Problem
  | .values => .notMapping
  | .document => .notObject

/-- The name of a member within the path of a fault; half of a surrogate pair has no written form
there, and each of the three bytes it would take counts as unreadable. -/
def place (name : Text) : Text :=
  name.flatMap fun p => if p.isChar then [p] else "\uFFFD\uFFFD\uFFFD"

def fault (path : List Text) (problem : Problem) : List Fault := [⟨path.map place, problem⟩]

def text (path : List Text) : Json → Checked Text
  | .text t => .ok t
  | _ => .error (fault path .notText)

/-- An object whose members are all read in one way. -/
def table {α : Type} (origin : Origin) (read : List Text → Json → Checked α) (path : List Text) :
    Json → Checked (Mapping α)
  | .object members =>
    (Checked.all (members.map fun (name, value) =>
      (read (path ++ [name]) value).map fun x => (name, x))).map Mapping.ofList
  | _ => .error (fault path origin.badShape)

/-- The member with a name, which must be there. -/
def required {α : Type} (members : List (Text × Json)) (name : Text)
    (read : List Text → Json → Checked α) : Checked α :=
  match Mapping.lookup name members with
  | some value => read [name] value
  | none => .error (fault [name] .missing)

/-- The member with a name, or a value in its place. -/
def optional {α : Type} (members : List (Text × Json)) (name : Text) (absent : α)
    (read : List Text → Json → Checked α) : Checked α :=
  match Mapping.lookup name members with
  | some value => read [name] value
  | none => .ok absent

/-- A value that a rule of its field accepts. -/
def obeying {α : Type} (rule : α → Option Rejection) (read : List Text → Json → Checked α)
    (path : List Text) (value : Json) : Checked α := do
  let x ← read path value
  match rule x with
  | none => return x
  | some rejection => .error (fault path (.rejected rejection))

/-- No member is there that no field takes. -/
def closed (fields : List Text) (members : List (Text × Json)) : Checked Unit :=
  match (members.map Prod.fst).filter (· ∉ fields) with
  | [] => .ok ()
  | extra => .error (extra.flatMap fun name => fault [name] .extraMember)

/-- The faults become those of a model.  A member whose name has no written form hides all others,
where names are looked at. -/
def report {α : Type} (model : Text) (members : List (Text × Json)) (checked : Checked α) :
    Except Invalid α :=
  if members.all fun (name, _) => decide name.Encodable then checked.mapError (⟨model, ·⟩)
  else .error ⟨model, fault [] .brokenText⟩

end Members

open Members

/-- An app from a `name` and, if there are any, `labels`. -/
def App.ofMembers? (members : List (Text × Json)) : Except Invalid App :=
  let name := required members "name" (obeying checkIdentifier text)
  let labels := optional members "labels" {} (obeying checkLabels (table .values text))
  (report "App" members
    (Checked.both (Checked.both name labels) (closed ["name", "labels"] members))).bind
    fun ((name, labels), _) => App.make? name labels

/-- A declaration from its `name`, `prefix` and `uri`. -/
def Declaration.ofMembers? (members : List (Text × Json)) : Except Invalid Declaration :=
  let name := required members "name" text
  let scope := required members "prefix" text
  let template := required members "uri" text
  (report "ACMeta" members
    (Checked.both (Checked.both name (Checked.both scope template))
      (closed ["name", "prefix", "uri"] members))).map
    fun ((name, scope, template), _) => ⟨name, scope, template⟩

inductive Endpoint.Role where
  | image
  | tagDocument
deriving DecidableEq

def Endpoint.Role.model : Endpoint.Role → Text
  | .image => "ACIEndpoint"
  | .tagDocument => "ImageTagsEndpoint"

/-- The name of the member that says where the artifact is. -/
def Endpoint.Role.artifactName : Endpoint.Role → Text
  | .image => "aci"
  | .tagDocument => "image_tags"

/-- The name of the member that says where the signature is. -/
def Endpoint.signatureName : Text := "asc"

def Endpoint.members (role : Endpoint.Role) (e : Endpoint) : List (Text × Text) :=
  [(role.artifactName, e.artifact), (Endpoint.signatureName, e.signature)]

def Endpoint.ofMembers? (role : Endpoint.Role) (members : List (Text × Json)) :
    Except Invalid Endpoint :=
  let artifact := required members role.artifactName text
  let signature := required members signatureName text
  (report role.model members
    (Checked.both (Checked.both artifact signature)
      (closed [role.artifactName, signatureName] members))).map
    fun ((artifact, signature), _) => ⟨artifact, signature⟩

namespace TagData

def model : Text := "ImageTags"

/-- Tag data from `aliases` and `labels`; either may be left out, and other members are no fault. -/
def ofMembers? (origin : Origin) (members : List (Text × Json)) : Except Invalid TagData :=
  let aliases := optional members "aliases" {} (table origin text)
  let labels := optional members "labels" {} (obeying checkLabelSets (table origin (table origin text)))
  ((Checked.both aliases labels).mapError (⟨model, ·⟩)).bind fun (aliases, labels) =>
    (make? aliases labels).mapError fun rejection => ⟨model, fault ["labels"] (.rejected rejection)⟩

/-- Of members with one name the last one counts, but within a table each is looked at. -/
def ofBytes? (bytes : Bytes) : Except Invalid TagData :=
  match Json.ofBytes? bytes with
  | none => .error ⟨model, fault [] .notJson⟩
  | some (.object members) => ofMembers? .document (Mapping.ofList members).toList
  | some _ => .error ⟨model, fault [] .notModel⟩

def toJson (data : TagData) : Json :=
  let texts (m : Mapping Text) : Json := .object (m.map Json.text).toList
  .object [("aliases", texts data.aliases), ("labels", .object (data.labels.map texts).toList)]

end TagData

/-- A value never changes: giving one of its members another value is refused.  A name that starts
with an underscore is no member's, and giving it a value changes nothing. -/
def refuseAssignment (model name : Text) : Option Invalid :=
  if name.head? = some (.char '_') then none else some ⟨model, fault [name] .frozen⟩

end ImageDiscovery
