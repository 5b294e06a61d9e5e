import ImageDiscovery.App
import ImageDiscovery.Url.Percent

/-!
# App notation — apps as a user writes them

`example.com/worker:1.0,channel=alpha` names an app with a version and one more label.  A colon is
short for `,version=`, so the text is first spelled out with `name=` in front, cut at its commas,
and each segment cut at its first equal sign.  Values pass through their percent form, which changes
none that has one.  `App.read` says what may be wrong with the result.
-/

namespace ImageDiscovery

def versionLabel : Text := "version"

namespace App

/-- What is wrong with a text that should name an app. -/
inductive NotationProblem where
  /-- A segment without an equal sign. -/
  | noValue (label : Text)
  /-- A value with half of a surrogate pair in it. -/
  | brokenValue (label : Text)
  /-- A value whose percent form is not that of a text. -/
  | unreadableValue (label : Text)
  | reserved
  | repeated (label first second : Text)
  | invalid (cause : Invalid)
deriving DecidableEq

def NotationProblem.message : NotationProblem → Text
  | .noValue label => "label " ++ label.quoted ++ " has no value"
  | .brokenValue label => "label " ++ label.quoted ++ " value is not encodable"
  | .unreadableValue label => "label " ++ label.quoted ++ " value is not decodable"
  | .reserved => "label " ++ reservedLabel.quoted ++ " is reserved"
  | .repeated label first second =>
    "label " ++ label.quoted ++ " with multiple values " ++ Text.quotedList [first, second]
  | .invalid cause => cause.reasons

/-- The text with its name labelled and its colons spelled out. -/
def spelledOut (t : Text) : Text :=
  reservedLabel ++ "=" ++ t.replace (.char ':') ("," ++ versionLabel ++ "=")

/-- A label and the percent form of its value, if the segment has an equal sign and the value can be
encoded. -/
def readSegment (segment : Text) : Except NotationProblem (Text × Text) :=
  match segment.cut (.char '=') with
  | (label, none) => .error (.noValue label)
  | (label, some value) =>
    if value.Encodable then .ok (label, Percent.encodeValue value) else .error (.brokenValue label)

/-- The value of a label back from its percent form. -/
def readValue (label form : Text) : Except NotationProblem Text :=
  match Percent.decodeValue? form with
  | some value => .ok value
  | none => .error (.unreadableValue label)

/-- Adds labels that are neither reserved nor given before, with values by their percent forms. -/
def collect (labels : Mapping Text) : List (Text × Text) → Except NotationProblem (Mapping Text)
  | [] => .ok labels
  | (label, form) :: rest => do
    let value ← readValue label form
    if label = reservedLabel then .error .reserved
    else match labels.get? label with
      | some first => .error (.repeated label first value)
      | none => collect (labels.insert label value) rest

/-- Reads the notation; every segment is looked at before any label is. -/
def read (t : Text) : Except NotationProblem App := do
  match ← ((spelledOut t).split (.char ',')).mapM readSegment with
  | [] => .error .reserved
  | (first, form) :: given =>
    let name ← readValue first form
    let labels ← collect {} given
    (make? name labels).mapError .invalid

end App

end ImageDiscovery
