import ImageDiscovery.Validation

/-!
# App — an image identifier with labels

An app is a name such as `example.com/worker` with labels that select among its images.  Its text
form is the name followed by the labels in the order of their names, `name,label=value,…`, and
`App.namespaces` lists the prefixes of the name that may speak for it, the most specific first.
-/

namespace ImageDiscovery

/-- A valid name with a valid set of labels, which keep the order they were given in. -/
structure App where
  name : Text
  labels : Mapping Text
  name_ok : checkIdentifier name = none
  labels_ok : checkLabels labels = none
deriving DecidableEq

namespace App

/-- Checks a name and labels; both may be at fault. -/
def make? (name : Text) (labels : Mapping Text) : Except Invalid App :=
  match hn : checkIdentifier name, hl : checkLabels labels with
  | none, none => .ok ⟨name, labels, hn, hl⟩
  | badName, badLabels => .error {
      model := "App"
      faults :=
        (badName.map fun r => ⟨["name"], .rejected r⟩).toList
          ++ (badLabels.map fun r => ⟨["labels"], .rejected r⟩).toList }

/-- The name, then each label with its value, in the order of the labels' names. -/
def toText (app : App) : Text :=
  Text.join "," (app.name :: app.labels.sorted.map fun (label, value) =>
    label ++ .char '=' :: value)

/-- Equal names and the same labels, in whatever order. -/
def same (a b : App) : Bool := a.name = b.name && a.labels.same b.labels

/-- What the placeholders of a template stand for: the name, then the labels by name. -/
def substitutes (app : App) : List (Text × Text) := (reservedLabel, app.name) :: app.labels.sorted

/-- The joins of all, all but one, … and at last the first one of the parts of a name. -/
def namespacesOf (parts : List Text) : List Text :=
  (List.range parts.length).map fun dropped => Text.join "/" (parts.take (parts.length - dropped))

/-- The prefixes of the name that end at a slash, from the whole name to its first part. -/
def namespaces (app : App) : List Text := namespacesOf (app.name.split (.char '/'))

end App

end ImageDiscovery
