import ImageDiscovery.Mapping
import ImageDiscovery.Identifier
import ImageDiscovery.Text.Quoted

/-!
# Validation — what is wrong with a value

Apps, declarations, endpoints and tag data are checked field by field when they are built.  A
`Fault` says where in the value something is wrong and what; `Problem.message` is the only place
that words it.
-/

namespace ImageDiscovery

/-- Why a name or a set of labels is refused. -/
inductive Rejection where
  | badIdentifier (name : Text)
  | reserved
  | longValue (label : Text) (length : Nat)
deriving DecidableEq

/-- The label that an app's name itself stands for. -/
def reservedLabel : Text := "name"

/-- The longest label value, in code points. -/
def maxLabelLength : Nat := 255

def Rejection.message : Rejection → Text
  | .badIdentifier name =>
    "Invalid ACIdentifier, must contain lower case alphanumeric characters plus '-._~/', got: "
      ++ name.quoted
  | .reserved => "Label " ++ reservedLabel.quoted ++ " is reserved"
  | .longValue label length =>
    "Label " ++ label.quoted ++ " value must be at most " ++ Text.ofNat maxLabelLength
      ++ " characters, got " ++ Text.ofNat length

inductive Problem where
  | missing
  | extraMember
  | frozen
  | notText
  /-- Neither a character string nor any other text that can be written. -/
  | brokenText
  /-- Not a mapping, where members of a value in hand were checked. -/
  | notMapping
  /-- Not an object, where a document was checked. -/
  | notObject
  /-- The document itself is not an object. -/
  | notModel
  | notJson
  | rejected (cause : Rejection)
deriving DecidableEq

/-- The wording of a problem; a document that cannot be read has none of its own. -/
def Problem.message : Problem → Option Text
  | .missing => some "Field required"
  | .extraMember => some "Extra inputs are not permitted"
  | .frozen => some "Instance is frozen"
  | .notText => some "Input should be a valid string"
  | .brokenText => some "Input should be a valid string, unable to parse raw data as a unicode string"
  | .notMapping => some "Input should be a valid dictionary"
  | .notObject | .notModel => some "Input should be an object"
  | .notJson => none
  | .rejected cause => some ("Value error, " ++ cause.message)

/-- A problem and the path of member names that leads to it. -/
structure Fault where
  location : List Text
  problem : Problem
deriving DecidableEq

/-- The faults of a value that was refused, in the order of its fields. -/
structure Invalid where
  model : Text
  faults : List Fault
deriving DecidableEq

def Invalid.reasons (e : Invalid) : Text :=
  Text.join "; " (e.faults.filterMap fun f => f.problem.message)

def checkIdentifier (name : Text) : Option Rejection :=
  if isIdentifier name then none else some (.badIdentifier name)

def checkLabel (label value : Text) : Option Rejection :=
  if label = reservedLabel then some .reserved
  else match checkIdentifier label with
    | some rejection => some rejection
    | none =>
      if value.length ≤ maxLabelLength then none else some (.longValue label value.length)

/-- The first thing that is wrong with a set of labels, in their order. -/
def checkLabels (labels : Mapping Text) : Option Rejection :=
  labels.toList.findSome? fun (label, value) => checkLabel label value

/-- The first thing that is wrong with one of many sets of labels. -/
def checkLabelSets (sets : Mapping (Mapping Text)) : Option Rejection :=
  sets.toList.findSome? fun (_, labels) => checkLabels labels

end ImageDiscovery
